import VmBridge.FixedBytes

/-!
# Spans of native memory

Native code passes a run of items as a pointer together with a count.  The
pointer is either null, whatever the count says, or it leads to exactly the
counted items.
-/

namespace VmBridge

/-- A pointer to items together with their count. -/
inductive Span (α : Type) where
  /-- A null pointer that comes with a count. -/
  | null (size : Nat)
  | live (items : List α)
deriving DecidableEq, Inhabited

namespace Span

variable {α : Type}

/-- The span that lends out a list, with a null pointer for the empty list. -/
def lend (items : List α) : Span α :=
  match items with
  | [] => .null 0
  | _ :: _ => .live items

/-- Whether the pointer is null. -/
def isNull : Span α → Bool
  | .null _ => true
  | .live _ => false

/-- The count that comes with the pointer. -/
def size : Span α → Nat
  | .null size => size
  | .live items => items.length

/-- The items, a null pointer counting as none at all. -/
def contents : Span α → List α
  | .null _ => []
  | .live items => items

/-- The items, unless a null pointer claims to lead to some. -/
def read? : Span α → Option (List α)
  | .null 0 => some []
  | .null (_ + 1) => none
  | .live items => some items

@[simp] theorem contents_lend (items : List α) : (lend items).contents = items := by
  cases items <;> rfl

@[simp] theorem size_lend (items : List α) : (lend items).size = items.length := by
  cases items <;> rfl

@[simp] theorem read?_lend (items : List α) : (lend items).read? = some items := by
  cases items <;> rfl

theorem isNull_lend (items : List α) : (lend items).isNull = items.isEmpty := by
  cases items <;> rfl

end Span

end VmBridge
