import ContainerDriver.Text.Printable
import ContainerDriver.Text.Utf8

/-! Text shown in quotes inside a message. Apostrophes surround it unless it holds one and no
quotation mark; whatever is not printable is written by number, surrogates among it. -/
namespace ContainerDriver.Text
namespace Quoted
open Text.Symbol

def hexDigits (width n : Nat) : List Char :=
  let ds := Nat.toDigits 16 n
  List.replicate (width - ds.length) '0' ++ ds

def numbered (n : Nat) : List Char :=
  if n < 0x100 then backslash :: 'x' :: hexDigits 2 n
  else if n < 0x10000 then backslash :: 'u' :: hexDigits 4 n
  else backslash :: 'U' :: hexDigits 8 n

def escape (quote c : Char) : List Char :=
  if c = backslash ∨ c = quote then [backslash, c]
  else if c = '\n' then [backslash, 'n']
  else if c = '\r' then [backslash, 'r']
  else if c = '\t' then [backslash, 't']
  else if isPrintable c then [c]
  else numbered c.toNat

def escapeLetter (quote : Char) : Letter → List Char
  | .char c => escape quote c
  | l => numbered l.code

def quoteFor (t : Text) : Char :=
  if t.contains (.char apostrophe) && !t.contains (.char quotationMark) then quotationMark
  else apostrophe

end Quoted

open Quoted in
def quoted (t : Text) : String :=
  String.ofList (quoteFor t :: t.flatMap (escapeLetter (quoteFor t)) ++ [quoteFor t])

def quotedBytes (b : Bytes) : String := quoted (Utf8.decodeEscaping b)

def visible (t : Text) : String :=
  String.ofList <| t.flatMap fun
    | .char c => [c]
    | l => Quoted.numbered l.code

def Unencodable.message (u : Unencodable) : String :=
  let stretch := (u.text.drop u.start).take (u.stop - u.start)
  "'utf-8' codec can't encode character" ++
    (match stretch with
      | [l] => " '" ++ visible [l] ++ "' in position " ++ toString u.start
      | _ => "s in position " ++ toString u.start ++ "-" ++ toString (u.stop - 1)) ++
    ": surrogates not allowed"

end ContainerDriver.Text
