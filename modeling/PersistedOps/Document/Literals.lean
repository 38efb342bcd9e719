import PersistedOps.Document.Walk

/-!
Literal values hidden, so that operations which differ in them alone look the same.
-/

namespace PersistedOps.Literals

/-- Numbers become 0 and strings become empty. -/
def hideNode (t : Tree) : Except Malformed Tree :=
  match t.kind? with
  | some .intValue | some .floatValue => .ok (t.set .value (.text "0"))
  | some .stringValue => .ok ((t.set .value (.text "")).set .block (.scalar (.bool false)))
  | _ => .ok t

/-- Hides every literal of a document. -/
def hide (document : Tree) : Except Malformed Tree := document.revise hideNode

end PersistedOps.Literals
