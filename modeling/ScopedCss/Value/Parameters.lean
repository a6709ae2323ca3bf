import ScopedCss.Value.Basic

/-!
Parameters of functions. The arguments of a call without keywords go to the first parameters, those
with keywords to the parameters of these names; a parameter gets at most one value, and only the
last parameters may go without.
-/
namespace ScopedCss

structure Parameters where
  /-- The name of the function in messages. -/
  function : String
  names : List String
  /-- How many of the last parameters need no value. -/
  optional : Nat := 0
deriving DecidableEq, Repr

namespace Parameters

def required (p : Parameters) : List String := p.names.take (p.names.length - p.optional)

/-- A keyword names a parameter that has no value yet. -/
def checkKeyword (p : Parameters) (count : Nat) (keyword : String) : Except CallFault Unit :=
  if !p.names.contains keyword then .error (.unexpected p.function keyword)
  else if (p.names.take count).contains keyword then .error (.repeated p.function keyword)
  else .ok ()

/-- The parameters that neither the first arguments nor keywords give a value. -/
def missing (p : Parameters) (count : Nat) (keywords : List String) : List String :=
  (p.required.drop count).filter (!keywords.contains ·)

/-- The values of the parameters, in order. Keywords are looked at first, in the order of the call,
then the number of arguments, then what is missing. -/
def bind (p : Parameters) (args : List Value) (keywords : List (String × Value)) :
    Except CallFault (List (Option Value)) := do
  keywords.forM fun k => p.checkKeyword args.length k.1
  if args.length > p.names.length then
    throw (.tooMany p.function p.required.length p.names.length args.length)
  match p.missing args.length (keywords.map (·.1)) with
  | [] => return args.map some ++ (p.names.drop args.length).map fun n => keywords.lookup n
  | names => throw (.missing p.function names)

end Parameters
end ScopedCss
