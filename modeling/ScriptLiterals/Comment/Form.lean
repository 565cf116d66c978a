/-!
# Forms of comments
-/

set_option autoImplicit false

namespace ScriptLiterals

/-- The form of a comment. -/
inductive CommentForm where
  | line
  | block
  | doc
  deriving DecidableEq, Repr

namespace CommentForm

/-- What a comment of this form opens with. -/
def opener : CommentForm → List Char
  | .line => ['/', '/']
  | .block => ['/', '*']
  | .doc => ['/', '*', '*']

/-- The form that an opener or a name stands for. -/
def ofName? (name : String) : Option CommentForm :=
  if name = "//" ∨ name = "line" then some .line
  else if name = "/*" ∨ name = "block" then some .block
  else if name = "/**" ∨ name = "doc" then some .doc
  else none

/-- Every form goes by its opener. -/
theorem ofName?_opener (form : CommentForm) :
    ofName? (String.ofList form.opener) = some form := by
  cases form <;> rfl

/-- What is said of a name that no form has. -/
def unknownMessage (name : String) : String := "unknown comment type: " ++ name

end CommentForm

end ScriptLiterals
