import FileDepot.Fault
import FileDepot.Number.Binary64

/-!
# HTTP layers

Archives are downloaded over an HTTP layer. It reads addresses, exchanges requests and answers with servers
and follows where an answer sends it; how it does so is its own matter, and what is said of downloads is said
over any layer. `Layer.Documented` is what a layer promises.
-/

namespace FileDepot.Web

/-- What is exchanged with servers. -/
inductive Exchange where
  /-- a client was made -/
  | client (timeout : Number.Binary64) (verify follow : Bool)
  /-- an address was asked for, with the form of the answers that are accepted -/
  | asked (url accept : String)
  deriving DecidableEq, Repr

/-- What an HTTP layer is asked for. -/
structure Query where
  /-- the address -/
  target : List Point
  /-- how long to wait, in seconds -/
  timeout : Number.Binary64
  /-- whether to make sure who answers -/
  verify : Bool
  /-- whether to go where an answer sends the client -/
  follow : Bool
  /-- the form of the answers that are accepted -/
  accept : String
  deriving DecidableEq, Repr

/-- An HTTP layer, which gives answers of the type `ρ`. -/
structure Layer (ρ : Type) where
  /-- ask for an address: the last answer or trouble on the way, and what was exchanged -/
  get : Query → Except Trouble ρ × List Exchange
  /-- hold the status of an answer against success -/
  check : ρ → Except Trouble Unit
  /-- the status of an answer -/
  status : ρ → Nat
  /-- the body of an answer -/
  content : ρ → Bytes
  /-- whether a kind of trouble is one with the status of an answer -/
  isStatus : Family → Bool
  /-- whether a kind of trouble is one of HTTP -/
  isHttp : Family → Bool

namespace Layer

variable {ρ : Type}

/-- The kind of trouble that an address is that cannot be read. -/
def invalidKind : Family := .named "InvalidURL"

/-- What a layer promises. -/
structure Documented (layer : Layer ρ) : Prop where
  /-- an answer passes if its status is one of success, and only then -/
  check_ok : ∀ r, layer.check r = .ok () ↔ 200 ≤ layer.status r ∧ layer.status r < 300
  /-- an answer that does not pass is trouble with its status -/
  check_error : ∀ {r t}, layer.check r = .error t → layer.isStatus t.family = true
  /-- trouble with the status of an answer is trouble of HTTP -/
  isHttp_of_isStatus : ∀ {k}, layer.isStatus k = true → layer.isHttp k = true
  /-- an address that cannot be read is not -/
  invalid : layer.isHttp invalidKind = false
  /-- a layer knows nothing of the trouble that file operations raise on their own -/
  foreign : ∀ {q t log}, layer.get q = (.error t, log) → t.family.isOwn = false

/-- The answer that a layer gives, held against success. -/
def answer (layer : Layer ρ) (q : Query) : Except Trouble ρ × List Exchange :=
  match layer.get q with
  | (.error t, log) => (.error t, log)
  | (.ok r, log) => ((layer.check r).map fun _ => r, log)

end Layer

end FileDepot.Web
