import FileDepot.Web.Scripted.Host

/-!
# References

In the scripted network a reference leads from one address to another. Both are ASCII texts. Whether a
scheme has hosts, paths that can be relative, and parameters after a path, is a matter of the scheme.
-/

namespace FileDepot.Web.Scripted.Reference

open Host (piecesAt)

/-- The schemes with relative references. -/
def relativeSchemes : List String :=
  ["", "ftp", "http", "gopher", "nntp", "imap", "wais", "file", "https", "shttp", "mms", "prospero",
    "rtsp", "rtsps", "rtspu", "sftp", "svn", "svn+ssh", "ws", "wss"]

/-- The schemes with hosts. -/
def hostSchemes : List String :=
  ["", "ftp", "http", "gopher", "nntp", "telnet", "imap", "wais", "file", "mms", "https", "shttp",
    "snews", "prospero", "rtsp", "rtsps", "rtspu", "rsync", "svn", "svn+ssh", "sftp", "nfs", "git",
    "git+ssh", "ws", "wss"]

/-- The schemes with parameters. -/
def parameterSchemes : List String :=
  ["", "ftp", "hdl", "prospero", "http", "imap", "https", "shttp", "rtsp", "rtsps", "rtspu", "sip",
    "sips", "mms", "sftp", "tel"]

/-- The parts of a text that refers to something. Missing parts are empty. -/
structure Parts where
  /-- the scheme -/
  scheme : String
  /-- the part that names a host -/
  authority : List Char
  /-- the path -/
  path : List Char
  /-- the parameters of the last part of the path -/
  parameters : List Char
  /-- the query -/
  query : List Char
  /-- the fragment -/
  fragment : List Char
  deriving DecidableEq, Repr

/-- Split a text before the first character of a kind. -/
def before (c : Char) (s : List Char) : List Char × List Char :=
  (s.takeWhile (· ≠ c), s.dropWhile (· ≠ c))

/-- Split a scheme off; without one, the usual scheme stands. -/
def splitScheme (usual : String) (s : List Char) : String × List Char :=
  match before ':' s with
  | (c :: more, _ :: rest) =>
    if c.isAlpha && more.all fun d => d.isAlphanum || d = '+' || d = '-' || d = '.' then
      (String.ofList ((c :: more).map Char.toLower), rest)
    else (usual, s)
  | _ => (usual, s)

/-- Split the part that names a host off. -/
def splitAuthority (s : List Char) : List Char × List Char :=
  match s with
  | '/' :: '/' :: rest =>
    let goesOn (c : Char) : Bool := c ≠ '/' && c ≠ '?' && c ≠ '#'
    (rest.takeWhile goesOn, rest.dropWhile goesOn)
  | _ => ([], s)

/-- Split the parameters off the last part of a path. -/
def splitParameters (scheme : String) (path : List Char) : List Char × List Char :=
  let last := (path.reverse.takeWhile (· ≠ '/')).reverse
  if parameterSchemes.contains scheme && last.contains ';' then
    let (name, parameters) := before ';' last
    (path.take (path.length - last.length) ++ name, parameters.drop 1)
  else (path, [])

/-- The parts of a text, with the scheme that stands where it has none. -/
def split (usual : String) (s : List Char) : Parts :=
  let (scheme, s) := splitScheme usual s
  let (authority, s) := splitAuthority s
  let (s, fragment) := before '#' s
  let (s, query) := before '?' s
  let (path, parameters) := splitParameters scheme s
  ⟨scheme, authority, path, parameters, query.drop 1, fragment.drop 1⟩

/-- A part after its mark, if it is not empty. -/
def marked (c : Char) (s : List Char) : List Char := if s.isEmpty then [] else c :: s

/-- The text of some parts. -/
def text (p : Parts) : List Char :=
  let path := p.path ++ marked ';' p.parameters
  let named := !p.authority.isEmpty || (!p.scheme.isEmpty && hostSchemes.contains p.scheme) ||
    ['/', '/'].isPrefixOf path
  let path :=
    if named then
      ['/', '/'] ++ p.authority ++ (if path.isEmpty || path.head? = some '/' then path else '/' :: path)
    else path
  (if p.scheme.isEmpty then [] else p.scheme.toList ++ [':']) ++ path ++ marked '?' p.query ++
    marked '#' p.fragment

/-- The path that a path leads to from another one. -/
def mergePath (base path : List Char) : List Char :=
  let segments :=
    if path.head? = some '/' then piecesAt '/' path
    else
      let front := piecesAt '/' base
      let front := if front.getLast? = some [] then front else front.dropLast
      let all := front ++ piecesAt '/' path
      all.take 1 ++ (all.drop 1).dropLast.filter (· ≠ []) ++ (all.drop 1).getLast?.toList
  let out := segments.foldl (fun (out : List (List Char)) s =>
    if s = ['.', '.'] then out.dropLast else if s = ['.'] then out else out ++ [s]) []
  let last := segments.getLast?.getD []
  let merged := ['/'].intercalate (if last = ['.'] || last = ['.', '.'] then out ++ [[]] else out)
  if merged.isEmpty then ['/'] else merged

/-- The address that a reference leads to from another address. -/
def resolve (base reference : List Char) : List Char :=
  if base.isEmpty then reference
  else if reference.isEmpty then base
  else
    let b := split "" base
    let r := split b.scheme reference
    if r.scheme ≠ b.scheme || !relativeSchemes.contains r.scheme then reference
    else
      let named := hostSchemes.contains r.scheme
      if named && !r.authority.isEmpty then text r
      else
        let r := if named then { r with authority := b.authority } else r
        if r.path.isEmpty && r.parameters.isEmpty then
          text { r with
            path := b.path
            parameters := b.parameters
            query := if r.query.isEmpty then b.query else r.query }
        else text { r with path := mergePath b.path r.path }

end FileDepot.Web.Scripted.Reference
