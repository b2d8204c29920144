import ContainerDriver.Text.Quoted

/-! What is asked of an archive: one entry with its declared size, owner and permissions. -/
namespace ContainerDriver.Archive

structure Entry where
  name : Text
  size : Int
  uid : Int := 0
  gid : Int := 0
  mode : Option Int := none
  deriving DecidableEq, Repr

def maxEntrySize : Nat := Nat.pow 8 11 - 1

def defaultMode : Int := 0o644

inductive EncodingFlaw where
  | sizeMismatch (entry : Entry) (actual : Nat)
  | tooLarge (entry : Entry)
  | tooManyDigits (entry : Entry)
  | unencodable (entry : Entry) (e : Text.Unencodable)
  | oversizedRecords (entry : Entry)
  deriving DecidableEq, Repr

def EncodingFlaw.message : EncodingFlaw → String
  | sizeMismatch e actual =>
    "entry " ++ Text.quoted e.name ++ " declares " ++ toString e.size ++ " bytes but content has "
      ++ toString actual
  | tooLarge e =>
    "entry " ++ Text.quoted e.name ++ " is too large for a tar header (" ++ toString e.size ++ ")"
  | tooManyDigits e =>
    "cannot encode entry " ++ Text.quoted e.name
      ++ ": Exceeds the limit (4300 digits) for integer string conversion; use sys.set_int_max_str_"
      ++ "digits() to increase the limit"
  | unencodable e u => "cannot encode entry " ++ Text.quoted e.name ++ ": " ++ u.message
  | oversizedRecords e =>
    "cannot encode entry " ++ Text.quoted e.name ++ ": overflow in number field"

def Entry.checkSize (e : Entry) (length : Nat) : Except EncodingFlaw Unit :=
  if (length : Int) ≠ e.size then .error (.sizeMismatch e length)
  else if (maxEntrySize : Int) < e.size then .error (.tooLarge e)
  else .ok ()

end ContainerDriver.Archive
