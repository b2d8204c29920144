import ContainerDriver.Command.Basic

/-! Argument lists grow at their end. -/
namespace ContainerDriver

structure ArgumentList where
  toList : List Argument := []
  deriving DecidableEq, Repr

namespace ArgumentList

def of (values : List Text) : ArgumentList := ⟨values.map (⟨·, false⟩)⟩

def append (l : ArgumentList) (more : List Argument) : ArgumentList := ⟨l.toList ++ more⟩

def add (l : ArgumentList) (values : List Text) (secret : Bool := false) : ArgumentList :=
  l.append (values.map (⟨·, secret⟩))

def addMasked (l : ArgumentList) (value : Text) : ArgumentList := l.add [value] true

def addRead {α : Type} (read? : α → Option Argument) (l : ArgumentList) (elements : List α) :
    ArgumentList × Bool :=
  (l.append (readUntil read? elements).1, (readUntil read? elements).2)

def addEnv (l : ArgumentList) (env : List (Text × Value)) : ArgumentList × Bool :=
  l.addRead assignment? env

def extend (l : ArgumentList) (items : List Item) : ArgumentList × Bool :=
  l.addRead Item.argument? items

end ArgumentList

def Command.ofItems? (endpoint : Endpoint) (binary : Text) (items : List Item) : Option Command :=
  (items.mapM Item.argument?).map (Command.build endpoint binary)

end ContainerDriver
