import ApiRecovery.Corpus.Resolve

/-!
# Environments of type parameters

While the fields of a generic declaration are described, its type parameters stand for the arguments
of the call site. An argument is to be understood where it was written: in the scope of the call
site and in the environment there.
-/

namespace ApiRecovery

open Java (TypeRef)

inductive Environment
  /-- outside any declaration with parameters -/
  | empty
  /-- inside a declaration reached without arguments -/
  | unbound (parameters : List String)
  /-- inside a declaration reached with arguments, which were written in `scope` under `outer` -/
  | bound (parameters : List String) (arguments : List TypeRef) (scope : Scope)
      (outer : Environment)

inductive Binding
  /-- no type parameter -/
  | notParameter
  /-- a type parameter without an argument -/
  | missing
  /-- a type parameter with its argument and the place where that is to be understood -/
  | argument (type : TypeRef) (scope : Scope) (outer : Environment)

namespace Environment

def depth : Environment → Nat
  | empty => 0
  | unbound _ => 0
  | bound _ _ _ outer => outer.depth + 1

/-- What a name is; a name with dots is no parameter. -/
def lookup (env : Environment) (name : String) : Binding :=
  if name.toList.contains '.' then .notParameter
  else match env with
    | empty => .notParameter
    | unbound parameters => if parameters.contains name then .missing else .notParameter
    | bound parameters arguments scope outer =>
      match parameters.findIdx? (· == name) with
      | none => .notParameter
      | some i =>
        match arguments[i]? with
        | some type => .argument type scope outer
        | none => .missing

/-- An argument is understood further outside. -/
theorem depth_lt_of_lookup {env outer : Environment} {name : String} {type : TypeRef}
    {scope : Scope} (h : env.lookup name = .argument type scope outer) :
    outer.depth < env.depth := by
  unfold lookup at h
  split at h
  · cases h
  · split at h
    · cases h
    · split at h <;> cases h
    · split at h
      · cases h
      · split at h
        · cases h
          simp [depth]
        · cases h

end Environment

end ApiRecovery
