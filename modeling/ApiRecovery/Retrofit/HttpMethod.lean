import ApiRecovery.Text.LetterCase

/-!
# HTTP methods
-/

namespace ApiRecovery

inductive HttpMethod
  | get | post | put | delete | patch | options | head | trace
  deriving DecidableEq, Repr

namespace HttpMethod

def all : List HttpMethod :=
  [get, post, put, delete, patch, options, head, trace]

def name : HttpMethod → String
  | get => "GET"
  | post => "POST"
  | put => "PUT"
  | delete => "DELETE"
  | patch => "PATCH"
  | options => "OPTIONS"
  | head => "HEAD"
  | trace => "TRACE"

/-- The method of a name in any case. -/
def ofName? (name : String) : Option HttpMethod :=
  let upper := Text.toUppercase name
  all.find? fun m => m.name == upper

theorem mem_all (m : HttpMethod) : m ∈ all := by
  cases m <;> decide

end HttpMethod

end ApiRecovery
