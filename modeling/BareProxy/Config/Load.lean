import BareProxy.Base.Stream
import BareProxy.Config.Parse

/-!
# Loading the configuration

`load_with_tls`: the configuration file is read and parsed, and the paths in it start from its directory. Paths are
bytes with the rules of Unix.
-/

namespace BareProxy

/-- What `fs::read` answers for each path during one load. -/
abbrev Disk := Bytes → Except IoError Bytes

/-- `fs::read_to_string`. -/
def Disk.readToString (disk : Disk) (path : Bytes) : Except IoError Bytes := do
  let contents ← disk path
  ensure (validUtf8 contents = true) ⟨.invalidData, "stream did not contain valid UTF-8"⟩
  return contents

theorem Disk.readToString_eq_ok {disk : Disk} {path contents : Bytes} :
    disk.readToString path = .ok contents ↔ disk path = .ok contents ∧ validUtf8 contents = true := by
  rw [readToString, bind_eq_ok]
  constructor
  · intro h
    obtain ⟨read, hread, h⟩ := h
    obtain ⟨_, hvalid, h⟩ := bind_eq_ok.1 h
    cases h
    exact ⟨hread, ensure_eq_ok.1 hvalid⟩
  · intro h
    refine ⟨contents, h.1, ?_⟩
    rw [ensure_of h.2]
    rfl

namespace Config

/-! ### Paths -/

/-- `Path::join` with a relative path. -/
def pathJoin (base path : Bytes) : Bytes :=
  if base = [] ∨ base.getLast? = some 47 then base ++ path else base ++ 47 :: path

/-- What is left of a path, given from its end, without separators and parts `.` there. -/
def trimPathEnd : Bytes → Bytes
  | 47 :: rest => trimPathEnd rest
  | [46] => []
  | 46 :: 47 :: rest => trimPathEnd rest
  | reversed => reversed

/-- `Path::parent`. A separator or a `.` that the path begins with is a component of its own. -/
def pathParent (path : Bytes) : Option Bytes :=
  let first := if path.head? = some 47 ∨ path = [46] ∨ [46, 47] <+: path then 1 else 0
  let body := trimPathEnd (path.drop first).reverse
  if body = [] then
    if path.head? = some 47 ∨ first = 0 then none else some []
  else some (path.take first ++ (trimPathEnd ((body.dropWhile (· != 47)).drop 1)).reverse)

def TlsIdentityFiles.resolveAgainst (files : TlsIdentityFiles) (baseDirectory : Bytes) : TlsIdentityFiles :=
  let resolve path := if path.head? = some 47 then path else pathJoin baseDirectory path
  ⟨resolve files.certificatePath, resolve files.privateKeyPath⟩

/-! ### Loading -/

inductive ConfigError
  | read (path : Bytes) (message : String)
  | line (error : LineError)
  deriving DecidableEq, Repr

def ConfigError.text : ConfigError → String
  | .read path message => "failed to read config " ++ (String.fromUTF8? ⟨path.toArray⟩).getD "" ++ ": " ++ message
  | .line error =>
    "config line " ++ toString error.line ++ ": " ++ (String.fromUTF8? ⟨error.message.toArray⟩).getD ""

def loadWithTls (disk : Disk) (path : Bytes) : Except ConfigError (Config × List TlsIdentityFiles) := do
  let contents ← mapErr (fun source => .read path source.message) (disk.readToString path)
  let (configuration, tlsIdentityFiles) ← mapErr .line (parseWithTls contents)
  let baseDirectory := (pathParent path).getD []
  return (configuration, tlsIdentityFiles.map fun files => files.resolveAgainst baseDirectory)

end Config

end BareProxy
