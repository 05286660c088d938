import FileDepot.Text.Blank
import FileDepot.Web.Layer

/-!
# Downloading archives

A client asks an HTTP layer for an archive. Trouble of HTTP is told as trouble of the other side, and any
other trouble of the layer is passed on as it is.
-/

namespace FileDepot.Web

/-- How a client works. -/
structure Client where
  /-- how long it waits, in seconds -/
  timeout : Number.Binary64
  /-- whether it makes sure who answers -/
  verify : Bool
  deriving DecidableEq, Repr

namespace Client

variable {ρ : Type}

/-- The form of the answers that a client accepts. -/
def archiveForm : String := "application/zip"

/-- What a client asks for at an address. -/
def query (c : Client) (target : List Point) : Query :=
  ⟨target, c.timeout, c.verify, true, archiveForm⟩

/-- What is reported when an HTTP layer reports trouble. -/
def layerFault (layer : Layer ρ) (t : Trouble) : Fault :=
  if layer.isStatus t.family then .serverError t
  else if layer.isHttp t.family then .download t
  else .network t

/-- Download an archive. The data comes with what was exchanged. -/
def fetch (c : Client) (layer : Layer ρ) (address : List Point) :
    Except Fault Bytes × List Exchange :=
  let target := Text.trimPoints address
  if target.isEmpty then (.error (.refused .noUrl), [])
  else match layer.answer (c.query target) with
    | (.error t, log) => (.error (layerFault layer t), log)
    | (.ok r, log) => (.ok (layer.content r), log)

end Client

end FileDepot.Web
