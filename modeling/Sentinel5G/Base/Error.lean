import Sentinel5G.Base.BpfMap

namespace Sentinel5G.Base

inductive ErrKind
  | notFound
  | conflict
  | mapFull
  | keyNotExist
  | pinPathNotBPFFS
  | other
  deriving DecidableEq, Repr

structure Err where
  kind : ErrKind
  text : String
  deriving DecidableEq, Repr

def Err.wrap (err : Err) (context : String) : Err :=
  { err with text := context ++ ": " ++ err.text }

theorem Err.wrap_kind (err : Err) (context : String) : (err.wrap context).kind = err.kind := rfl

def errorf (text : String) : Err := ⟨.other, text⟩

def hexLiteral (n : Nat) : String := "0x" ++ String.ofList (Nat.toDigits 16 n)

def quoted (text : String) : String := "\"" ++ text ++ "\""

def mapErr : MapError → Err
  | .keySize => ⟨.other, "marshal key: key size mismatch"⟩
  | .full => ⟨.mapFull, "update: argument list too long"⟩
  | .keyNotExist => ⟨.keyNotExist, "delete: key does not exist"⟩

end Sentinel5G.Base
