/-!
# Chains of causes

A failure that passes through several layers gathers a message from each.
-/

set_option autoImplicit false

namespace Emend

/-- A failure, as its message and the messages of what caused it, the nearest cause first. -/
structure ErrorChain where
  message : String
  causes : List String
  deriving DecidableEq, Repr, Inhabited

namespace ErrorChain

/-- A failure without a cause. -/
def ofMessage (message : String) : ErrorChain := ⟨message, []⟩

/-- The failure with a message that says what was being done. -/
def context (e : ErrorChain) (message : String) : ErrorChain := ⟨message, e.message :: e.causes⟩

/-- All messages in one line. -/
def oneLine (e : ErrorChain) : String := ": ".intercalate (e.message :: e.causes)

/-- All messages on lines of their own, for a user to read. -/
def report (e : ErrorChain) : String :=
  let causes := match e.causes with
    | [] => ""
    | [cause] => s!"\n\nCaused by:\n    {cause}"
    | causes =>
      let numbered := causes.zipIdx.map fun (c : String × Nat) ↦ s!"\n    {c.2}: {c.1}"
      "\n\nCaused by:" ++ String.join numbered
  s!"Error: {e.message}{causes}"

end ErrorChain

end Emend
