import Assay.Proofs.Document.FieldOrder
import Assay.Proofs.Trace.Writing
import Mathlib.Tactic.IntervalCases

/-!
# The order of fields in traces

Every field of a trace, of a span and of a reference is set by itself, so a snapshot is read back
from any document that holds it, whichever way its fields stand.
-/

namespace Assay

open Document (Node)
open Json (OrderBlind Interchange orderBlind_record orderBlind_lenient eq_set_of_ok set_ok)

theorem Quantity.orderBlind_read : OrderBlind Quantity.read :=
  Json.orderBlind_atom.bind _

theorem Reference.orderBlind_read : OrderBlind Reference.read := by
  refine orderBlind_record ?_ ?_ _
  · intro r r₁ r₂ i k m n hi hk hne h₁ h₂
    simp only [List.length_cons, List.length_nil, Nat.zero_add, Nat.reduceAdd] at hi hk
    interval_cases i <;> interval_cases k <;> first
      | exact absurd rfl hne
      | obtain ⟨v, hv, rfl⟩ := eq_set_of_ok h₁
        obtain ⟨w, hw, rfl⟩ := eq_set_of_ok h₂
        exact ⟨_, set_ok hw _, set_ok hv _⟩
  · intro r i
    obtain _ | _ | i := i <;> exact orderBlind_lenient.bind _

theorem Span.interchange_readField : Interchange fieldNames.length readField := by
  intro s s₁ s₂ i k m n hi hk hne h₁ h₂
  simp only [fieldNames, List.length_cons, List.length_nil, Nat.zero_add, Nat.reduceAdd] at hi hk
  -- every pair of two fields, each of which is set by itself
  interval_cases i <;> interval_cases k <;> first
    | exact absurd rfl hne
    | obtain ⟨v, hv, rfl⟩ := eq_set_of_ok h₁
      obtain ⟨w, hw, rfl⟩ := eq_set_of_ok h₂
      exact ⟨_, set_ok hw _, set_ok hv _⟩

theorem Span.orderBlind_readField (s : Span) (i : Nat) : OrderBlind (s.readField i) := by
  obtain _ | _ | _ | _ | _ | _ | _ | _ | _ | i := i
  · exact orderBlind_lenient.bind _
  · exact orderBlind_lenient.bind _
  · exact orderBlind_lenient.bind _
  · exact Quantity.orderBlind_read.bind _
  · exact Quantity.orderBlind_read.bind _
  · exact Quantity.orderBlind_read.bind _
  · exact orderBlind_lenient.bind _
  · exact Json.orderBlind_lenientDictionary.bind _
  · exact Reference.orderBlind_read.items.bind _
  · exact Json.orderBlind_json.items.bind _

theorem Span.orderBlind_read : OrderBlind Span.read :=
  orderBlind_record interchange_readField orderBlind_readField _

theorem Trace.orderBlind_read : OrderBlind Trace.read := by
  refine orderBlind_record ?_ ?_ _
  · intro t t₁ t₂ i k m n hi hk hne h₁ h₂
    simp only [List.length_cons, List.length_nil, Nat.zero_add, Nat.reduceAdd] at hi hk
    interval_cases i <;> interval_cases k <;> first
      | exact absurd rfl hne
      | obtain ⟨v, hv, rfl⟩ := eq_set_of_ok h₁
        obtain ⟨w, hw, rfl⟩ := eq_set_of_ok h₂
        exact ⟨_, set_ok hw _, set_ok hv _⟩
  · intro t i
    obtain _ | i := i
    · exact orderBlind_lenient.bind _
    · exact Span.orderBlind_read.items.bind _

theorem Snapshot.orderBlind_read : OrderBlind Snapshot.read := by
  refine orderBlind_record ?_ ?_ _
  · intro s s₁ s₂ i k m n hi hk hne h₁ h₂
    simp only [List.length_cons, List.length_nil, Nat.zero_add, Nat.reduceAdd] at hi hk
    interval_cases i <;> interval_cases k <;> first
      | exact absurd rfl hne
      | obtain ⟨v, hv, rfl⟩ := eq_set_of_ok h₁
        obtain ⟨w, hw, rfl⟩ := eq_set_of_ok h₂
        exact ⟨_, set_ok hw _, set_ok hv _⟩
  · intro s i
    obtain _ | i := i
    · exact Json.orderBlind_uint64.optional.bind _
    · exact Trace.orderBlind_read.items.bind _

/-- **A snapshot is read back** from whatever holds it. -/
theorem Snapshot.read_of_heldBy {s : Snapshot} (h : s.Writable) {n : Node}
    (hn : s.toJson.HeldBy n) : Snapshot.read n = .ok s :=
  orderBlind_read s.toJson n s (canonical_toJson h) hn (read_toJson h)

end Assay
