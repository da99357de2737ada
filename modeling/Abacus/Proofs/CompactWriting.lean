/-
Module: Abacus.Proofs.CompactWriting
Purpose: Values written on one line, as in answers, and the members of objects by their names.
  Reading undoes writing on one line too, and of the members with one name the last one is found.
Main exports: valueText_compact, readWithin_compact, lookup_objectOf
-/
import Mathlib.Data.List.Induction
import Abacus.Proofs.JsonWriting

namespace Abacus.Json

/-! ### Values on one line -/

theorem compactItems_eq (items : List Value) : compactItems items = items.map compact := by
  induction items with
  | nil => rfl
  | cons item items ih => rw [compactItems, ih, List.map_cons]

theorem compactMembers_eq (members : List (String × Value)) :
    compactMembers members =
      members.map fun member => escapeString member.1 ++ ": " ++ compact member.2 := by
  induction members with
  | nil => rfl
  | cons member members ih => rw [compactMembers, ih, List.map_cons]

theorem isGapText_blank : IsGapText [' '] := by
  intro c hc
  rw [List.mem_singleton.mp hc]
  rfl

/-- Each value that is written exactly is written on one line in one of the ways to write it. -/
theorem valueText_compact {digits depth : Nat} {v : Value} (h : IsExact digits depth v) :
    ValueText digits depth v (compact v).toList := by
  have hnone : IsGapText [] := nofun
  induction depth generalizing v with
  | zero =>
      cases v with
      | array items => cases h
      | object members => cases h
      | null | bool | whole | real | string =>
          rw [compact]
          · exact plainText_scalarText h
          · exact nofun
          · exact nofun
  | succ depth ih =>
      cases v with
      | real x => cases h
      | null | bool | string =>
          rw [compact]
          · exact .inl (plainText_scalarText trivial)
          · exact nofun
          · exact nofun
      | whole n =>
          rw [compact]
          · exact .inl (plainText_scalarText h)
          · exact nofun
          · exact nofun
      | array items =>
          refine .inr ?_
          rw [compact, compactItems_eq]
          by_cases hempty : items = []
          · subst hempty
            exact .emptyArray hnone
          · have hlist := listText_intercalate isGapText_blank hnone hempty
              fun item hitem => ih (h item hitem)
            have htext := BracketText.array hnone hlist
            simpa [String.toList_intercalate, Function.comp_def] using htext
      | object members =>
          refine .inr ?_
          rw [compact, compactMembers_eq]
          by_cases hempty : members = []
          · subst hempty
            exact .emptyObject hnone
          · have hlist := listText_intercalate isGapText_blank hnone hempty
              fun member hmember => memberText_written (ih (h.2 member hmember))
            have htext := BracketText.object hnone hlist
            rw [objectOf_of_nodup h.1] at htext
            simpa [String.toList_intercalate, Function.comp_def] using htext

/-- Reading undoes writing on one line. -/
theorem readWithin_compact {digits depth : Nat} {v : Value} (h : IsExact digits depth v) :
    readWithin digits depth (compact v).toList = .ok v := by
  have hnone : IsGapText [] := nofun
  have hread := readWithin_of_valueText (valueText_compact h) hnone hnone
  rw [List.nil_append, List.append_nil] at hread
  exact hread

/-! ### Members by their names -/

theorem lookup_named (name other : String) (v : Value) (members : List (String × Value)) :
    ((name, v) :: members).lookup other =
      if other = name then some v else members.lookup other := by
  rw [List.lookup_cons]
  by_cases hname : other = name
  · rw [if_pos hname, beq_iff_eq.mpr hname]
  · rw [if_neg hname, beq_eq_false_iff_ne.mpr hname]

theorem lookup_setMember (name other : String) (v : Value) (members : List (String × Value)) :
    (setMember name v members).lookup other =
      if other = name then some v else members.lookup other := by
  induction members with
  | nil => exact lookup_named name other v []
  | cons member members ih =>
      obtain ⟨first, found⟩ := member
      rw [setMember]
      split
      · next hfirst =>
          have hfirst : first = name := hfirst
          rw [lookup_named, lookup_named, hfirst]
          split <;> rfl
      · next hfirst =>
          have hfirst : first ≠ name := hfirst
          rw [lookup_named, lookup_named, ih]
          by_cases hother : other = first
          · rw [if_pos hother, if_pos hother, if_neg (hother ▸ hfirst)]
          · rw [if_neg hother, if_neg hother]

/-- Of the members with one name the last one is found. -/
theorem lookup_objectOf (members : List (String × Value)) (name : String) :
    (objectOf members).lookup name = members.reverse.lookup name := by
  induction members using List.reverseRecOn with
  | nil => rfl
  | append_singleton members member ih =>
      have hlast : objectOf (members ++ [member]) =
          setMember member.1 member.2 (objectOf members) := by
        rw [objectOf, List.foldl_append]
        rfl
      rw [hlast, lookup_setMember, ih, List.reverse_append, List.reverse_singleton,
        List.singleton_append, ← lookup_named]

end Abacus.Json
