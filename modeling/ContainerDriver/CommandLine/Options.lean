import ContainerDriver.Text.Numeral
import ContainerDriver.Text.Quoted

/-! Reading command lines. Options may be abbreviated, joined to their values, and, when they have
one letter, to each other; two dashes end them. An argument that no rule takes is kept, and whoever
reads the whole line decides about it. -/
namespace ContainerDriver.Options

structure Flag where
  names : List Text
  takesValue : Bool := false
  required : Bool := false
  deriving DecidableEq, Repr

def Flag.title (f : Flag) : Text := List.intercalate "/" f.names

def helpFlag : Flag := { names := ["-h", "--help"] }

inductive Operand where
  | none
  | one (name : String) (ifBlank : Option String)
  | command (name : String) (choices : List Text)
  deriving DecidableEq, Repr

structure Grammar where
  program : String
  usage : String
  details : String
  flags : List Flag
  operand : Operand
  deriving DecidableEq, Repr

inductive Mistake where
  | ambiguous (argument : Text) (candidates : List Text)
  | valueMissing (f : Flag)
  | valueIgnored (f : Flag) (value : Text)
  | unknownCommand (operand : String) (given : Text) (choices : List Text)
  | refused (operand reason : String)
  | missing (names : List Text)
  | unrecognized (arguments : List Text)
  deriving DecidableEq, Repr

def Mistake.message : Mistake → Text
  | ambiguous argument candidates =>
    "ambiguous option: " ++ argument ++ " could match " ++ List.intercalate ", " candidates
  | valueMissing f => "argument " ++ f.title ++ ": expected one argument"
  | valueIgnored f value =>
    "argument " ++ f.title ++ ": ignored explicit argument " ++ Text.quoted value
  | unknownCommand operand given choices =>
    "argument " ++ operand ++ ": invalid choice: " ++ Text.quoted given ++ " (choose from "
      ++ ", ".intercalate (choices.map Text.quoted) ++ ")"
  | refused operand reason => "argument " ++ operand ++ ": " ++ reason
  | missing names => "the following arguments are required: " ++ List.intercalate ", " names
  | unrecognized arguments => "unrecognized arguments: " ++ List.intercalate " " arguments

inductive Stop where
  | help (g : Grammar)
  | mistake (g : Grammar) (m : Mistake)
  deriving DecidableEq, Repr

namespace Stop

def exitCode : Stop → Nat
  | help _ => 0
  | mistake _ _ => 2

def stdout : Stop → String
  | help g => g.usage ++ "\n" ++ g.details
  | mistake _ _ => ""

def stderr : Stop → Text
  | help _ => ""
  | mistake g m => g.usage ++ g.program ++ ": error: " ++ m.message ++ "\n"

end Stop

inductive Token where
  | plain
  | dashes
  /-- An option, whether it is spelled with two dashes, and the text joined to it: that behind an
  equals sign, or that behind its letter. -/
  | flag (f : Flag) (long : Bool) (joined : Option (Bool × Text))
  | unknown
  deriving DecidableEq, Repr

namespace Grammar

def named? (g : Grammar) (name : Text) : Option Flag := g.flags.find? (·.names.contains name)

def spellings (g : Grammar) : List (Text × Flag) :=
  g.flags.flatMap fun f => f.names.map fun name => (name, f)

end Grammar

def isLong (name : Text) : Bool := List.isPrefixOf "--" name

def isNegative (t : Text) : Bool :=
  let isDigit (l : Letter) : Bool := (l.char?.bind Text.Numeral.decimalDigit?).isSome
  let body := if t.getLast? = some (.char '\n') then t.dropLast.tail else t.tail
  let point := body.dropWhile isDigit
  t.head? = some (.char '-') && (!body.isEmpty && point.isEmpty
    || point.head? = some (.char '.') && !point.tail.isEmpty && point.tail.all isDigit)

def cutAtEquals (t : Text) : Text × Option Text :=
  let name := t.takeWhile (· ≠ .char '=')
  (name, (t.drop name.length).tail?)

def candidates (g : Grammar) (argument : Text) : List (Text × Flag × Option (Bool × Text)) :=
  if isLong argument then
    let (name, value) := cutAtEquals argument
    (g.spellings.filter fun s => name.isPrefixOf s.1).map fun s =>
      (s.1, s.2, value.map fun v => (true, v))
  else
    (g.spellings.filter fun s => s.1 = argument.take 2).map fun s =>
      (s.1, s.2, some (false, argument.drop 2))

def classify (g : Grammar) (argument : Text) : Except Mistake Token :=
  if argument.head? ≠ some (.char '-') ∨ argument.length = 1 then .ok .plain
  else match g.named? argument with
    | some f => .ok (.flag f (isLong argument) none)
    | none =>
      let (name, value) := cutAtEquals argument
      match value, g.named? name with
      | some v, some f => .ok (.flag f (isLong argument) (some (true, v)))
      | _, _ =>
        match candidates g argument with
        | [] => .ok (if isNegative argument || argument.contains (.char ' ') then .plain else .unknown)
        | [(name, f, joined)] => .ok (.flag f (isLong name) joined)
        | several => .error (.ambiguous argument (several.map (·.1)))

def tokens (g : Grammar) : List Text → Except Mistake (List (Text × Token))
  | [] => .ok []
  | argument :: rest =>
    if argument = "--" then .ok ((argument, .dashes) :: rest.map fun a => (a, .plain))
    else do
      let t ← classify g argument
      return (argument, t) :: (← tokens g rest)

/-- What an argument with options in it says: options with their values, an option whose value, if it
takes one, is in the next argument, and letters of no rule. -/
structure Cluster where
  complete : List (Flag × Option Text) := []
  waiting : Option Flag := none
  unknown : Option Text := none

def cluster (g : Grammar) (f : Flag) (long equals : Bool) : Text → Except Mistake Cluster
  | [] => if f.takesValue then .ok { complete := [(f, some "")] } else .error (.valueIgnored f "")
  | c :: rest =>
    let value := c :: rest
    if f.takesValue then .ok { complete := [(f, some value)] }
    else if long || equals || c = .char '-' then .error (.valueIgnored f value)
    else match g.named? [.char '-', c] with
      | none => .ok { complete := [(f, none)], unknown := some ("-" ++ value) }
      | some next =>
        let more : Except Mistake Cluster := match rest with
          | [] => .ok { waiting := some next }
          | d :: rest =>
            if d = .char '=' then cluster g next false true rest
            else cluster g next false false (d :: rest)
        more.map fun m => { m with complete := (f, none) :: m.complete }

structure Reading where
  flags : List (Flag × Option Text) := []
  operand : Option (List Text) := none
  extras : List Text := []
  deriving DecidableEq, Repr

namespace Reading

def has (r : Reading) (f : Flag) : Bool := r.flags.any (·.1 = f)

def value? (r : Reading) (f : Flag) : Option Text :=
  (r.flags.reverse.find? (·.1 = f)).bind (·.2)

def addExtra (r : Reading) (text : Text) : Reading := { r with extras := r.extras ++ [text] }

def addFlags (r : Reading) (g : Grammar) (fs : List (Flag × Option Text)) : Except Stop Reading :=
  if fs.any (·.1 = helpFlag) then .error (.help g) else .ok { r with flags := r.flags ++ fs }

def addOperand (r : Reading) (g : Grammar) (texts : List Text) : Except Stop Reading :=
  let fine := .ok { r with operand := some texts }
  let first := texts.headD ""
  match g.operand with
  | .none => fine
  | .one name (some reason) =>
    if Text.blank first then .error (.mistake g (.refused name reason)) else fine
  | .one _ none => fine
  | .command name choices =>
    if choices.contains first then fine
    else .error (.mistake g (.unknownCommand name first choices))

def addCluster (r : Reading) (g : Grammar) (found : Cluster) (next : Option Text) :
    Except Stop Reading :=
  let r := (found.unknown.map r.addExtra).getD r
  match found.waiting with
  | none => r.addFlags g found.complete
  | some f =>
    if f.takesValue then
      match next with
      | some value => r.addFlags g (found.complete ++ [(f, some value)])
      | none => .error (.mistake g (.valueMissing f))
    else r.addFlags g (found.complete ++ [(f, none)])

end Reading

def Cluster.wants (found : Cluster) : Bool := found.waiting.any (·.takesValue)

def clusterAt (g : Grammar) (f : Flag) (long : Bool) :
    Option (Bool × Text) → Except Stop Cluster
  | some (equals, value) => (cluster g f long equals value).mapError (Stop.mistake g)
  | none => .ok { waiting := some f }

def scan (g : Grammar) (r : Reading) : List (Text × Token) → Except Stop Reading
  | [] => .ok r
  | (text, .unknown) :: rest => scan g (r.addExtra text) rest
  | (_, .flag f long joined) :: rest => do
    let found ← clusterAt g f long joined
    if found.wants then
      match rest with
      | (value, .plain) :: rest => do scan g (← r.addCluster g found (some value)) rest
      | rest => do scan g (← r.addCluster g found none) rest
    else do scan g (← r.addCluster g found none) rest
  | (text, .plain) :: rest =>
    match g.operand, r.operand with
    | .command _ _, none => r.addOperand g (text :: rest.map (·.1))
    | .one _ _, none => do
      let r ← r.addOperand g [text]
      match rest with
      | (_, .dashes) :: rest => scan g r rest
      | rest => scan g r rest
    | _, _ => scan g (r.addExtra text) rest
  | (dashes, .dashes) :: rest =>
    match g.operand, r.operand, rest with
    | .command _ _, none, (_, .plain) :: _ => r.addOperand g (dashes :: rest.map (·.1))
    | .one _ _, none, (text, .plain) :: rest => do scan g (← r.addOperand g [text]) rest
    | _, _, rest => scan g (r.addExtra dashes) rest

def missing (g : Grammar) (r : Reading) : List Text :=
  let operand := match g.operand, r.operand with
    | .one name _, none => [name]
    | .command name _, none => [name]
    | _, _ => []
  operand ++ (g.flags.filter fun f => f.required && !r.has f).map Flag.title

def read (g : Grammar) (arguments : List Text) : Except Stop Reading := do
  let ts ← (tokens g arguments).mapError (Stop.mistake g)
  let r ← scan g {} ts
  if missing g r = [] then return r else .error (.mistake g (.missing (missing g r)))

end ContainerDriver.Options
