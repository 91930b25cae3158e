import TypedLayouts.Module.Name
import TypedLayouts.Proofs.Text.Cuts
import TypedLayouts.Proofs.Text.Fragment

/-!
# Fragments and the identifiers made from them

A fragment opens and closes with a letter or an underscore and has only letters, digits and
underscores between. `IsFragment` says so of a text. Taking the fragment of a name is a projection
onto these texts and the empty one: it always gives one of them, and it leaves them as they are.
Which one it gives is said by the part of the name from its first to its last letter or underscore.

A letter in front of a fragment, or a word of letters behind it, makes an identifier. So every name
of a generated module is one, whatever the user called its layout, portal or value list.
-/

namespace TypedLayouts.Identifier

open TypedLayouts.Text (dropTrailing)

/-! ## From the first to the last -/

/-- The part reaches from the first to the last of the characters that satisfy `p`. -/
structure Spans (p : Char → Prop) (part cs : List Char) : Prop where
  /-- None of the characters around the part satisfies `p`. -/
  around : ∃ front back, cs = front ++ part ++ back ∧ (∀ c ∈ front, ¬ p c) ∧ ∀ c ∈ back, ¬ p c
  /-- The part opens with a character that satisfies `p`. -/
  opens : ∃ c ∈ part.head?, p c
  /-- The part closes with a character that satisfies `p`. -/
  closes : ∃ c ∈ part.getLast?, p c

variable {p : Char → Bool} {part cs : List Char}

theorem trimTo_eq_dropTrailing : trimTo p cs = dropTrailing (!p ·) (cs.dropWhile (!p ·)) :=
  rfl

theorem trimTo_eq_nil_iff : trimTo p cs = [] ↔ ∀ c ∈ cs, ¬ p c = true := by
  rw [trimTo_eq_dropTrailing]
  constructor
  · intro h c hc hp
    have hbehind : ∀ d ∈ cs.dropWhile (!p ·), (!p d) = true := List.rdropWhile_eq_nil_iff.mp h
    rw [← List.takeWhile_append_dropWhile (p := (!p ·)) (l := cs)] at hc
    rcases List.mem_append.mp hc with hc | hc
    · simpa [hp] using List.mem_takeWhile_imp hc
    · simpa [hp] using hbehind c hc
  · intro h
    have hdrop : cs.dropWhile (!p ·) = [] :=
      List.dropWhile_eq_nil_iff.mpr fun c hc => by simpa using h c hc
    rw [hdrop]
    rfl

/-- Trimming leaves the part from the first to the last. -/
theorem spans_trimTo (h : ∃ c ∈ cs, p c = true) : Spans (p · = true) (trimTo p cs) cs := by
  have hne : trimTo p cs ≠ [] := by
    rw [ne_eq, trimTo_eq_nil_iff]
    obtain ⟨c, hc, hp⟩ := h
    exact fun hnone => hnone c hc hp
  -- Something is left, so both ends of it stopped the trimming.
  obtain ⟨back, hback, hdropped, hlast⟩ := Text.exists_dropTrailing (!p ·) (cs.dropWhile (!p ·))
  rw [← trimTo_eq_dropTrailing] at hback hlast
  refine ⟨⟨cs.takeWhile (!p ·), back, ?_, ?_, ?_⟩, ?opens, ?closes⟩
  · rw [List.append_assoc, ← hback, List.takeWhile_append_dropWhile]
  · intro c hc
    simpa using List.mem_takeWhile_imp hc
  · intro c hc
    simpa using hdropped c hc
  case opens =>
    obtain ⟨c, rest, htrim⟩ := List.exists_cons_of_ne_nil hne
    have hhead : cs.dropWhile (!p ·) = c :: (rest ++ back) := by
      rw [hback, htrim, List.cons_append]
    have hnot := List.head_dropWhile_not (!p ·) (hhead ▸ List.cons_ne_nil _ _)
    refine ⟨c, by rw [htrim]; rfl, ?_⟩
    simpa [hhead] using hnot
  case closes =>
    obtain ⟨c, hc⟩ := Option.isSome_iff_exists.mp (List.getLast?_isSome.mpr hne)
    exact ⟨c, hc, by simpa using hlast c hc⟩

/-- That part is what trimming leaves. -/
theorem Spans.trimTo_eq (h : Spans (p · = true) part cs) : trimTo p cs = part := by
  obtain ⟨⟨front, back, rfl, hfront, hback⟩, ⟨c, hc, hopens⟩, d, hd, hcloses⟩ := h
  obtain ⟨rest, rfl⟩ := List.head?_eq_some_iff.mp hc
  have hdrop : (front ++ (c :: rest) ++ back).dropWhile (!p ·) = (c :: rest) ++ back := by
    rw [List.append_assoc, List.dropWhile_append_of_pos (fun b hb => by simpa using hfront b hb),
      List.cons_append, List.dropWhile_cons_of_neg (by simpa using hopens)]
  rw [trimTo_eq_dropTrailing, hdrop]
  refine Text.dropTrailing_append_eq_left (fun b hb => ?_) fun b hb => by simpa using hback b hb
  rw [Option.mem_unique hb hd]
  simpa using hcloses

/-! ## Fragments -/

/-- A letter, or an underscore. -/
def IsLetter (c : Char) : Prop :=
  ('a' ≤ c ∧ c ≤ 'z') ∨ ('A' ≤ c ∧ c ≤ 'Z') ∨ c = '_'

/-- A letter, a digit, or an underscore. -/
def IsWordCharacter (c : Char) : Prop :=
  IsLetter c ∨ ('0' ≤ c ∧ c ≤ '9')

theorem isEdge_iff {c : Char} : isEdge c = true ↔ IsLetter c := by
  unfold isEdge IsLetter Char.isAlpha Char.isUpper Char.isLower
  rw [Bool.or_eq_true, Bool.or_eq_true, beq_iff_eq, decide_eq_true_eq, Bool.and_eq_true,
    decide_eq_true_eq, decide_eq_true_eq, or_assoc, or_left_comm]
  rfl

theorem isInner_iff {c : Char} : isInner c = true ↔ IsWordCharacter c := by
  unfold isInner IsWordCharacter Char.isDigit
  rw [Bool.or_eq_true, isEdge_iff, Bool.and_eq_true, decide_eq_true_eq, decide_eq_true_eq]
  rfl

instance : DecidablePred IsLetter :=
  fun _ => decidable_of_iff _ isEdge_iff

instance : DecidablePred IsWordCharacter :=
  fun _ => decidable_of_iff _ isInner_iff

/-- The text opens and closes with a letter or an underscore and has only letters, digits and
underscores between. -/
structure IsFragment (s : String) : Prop where
  /-- It opens with a letter or an underscore. -/
  opens : ∃ c ∈ s.toList.head?, IsLetter c
  /-- It closes with a letter or an underscore. -/
  closes : ∃ c ∈ s.toList.getLast?, IsLetter c
  /-- Nothing else than letters, digits and underscores stands between. -/
  words : ∀ c ∈ s.toList, IsWordCharacter c

variable {name : String}

theorem toList_fragment (name : String) :
    (fragment name).toList = (trimTo isEdge name.toList).filter isInner :=
  String.toList_ofList

/-- A name with a letter or underscore gives a text of this form: what is left out of the trimmed
name does not stand at its ends. -/
theorem isFragment_fragment (h : ∃ c ∈ name.toList, isEdge c = true) :
    IsFragment (fragment name) := by
  obtain ⟨-, ⟨c, hc, hopens⟩, d, hd, hcloses⟩ := spans_trimTo h
  refine ⟨⟨c, ?_, isEdge_iff.mp hopens⟩, ⟨d, ?_, isEdge_iff.mp hcloses⟩, fun b hb => ?_⟩
  · obtain ⟨rest, hrest⟩ := List.head?_eq_some_iff.mp hc
    rw [toList_fragment, hrest, List.filter_cons_of_pos (isInner_of_isEdge hopens)]
    rfl
  · obtain ⟨front, hfront⟩ := List.getLast?_eq_some_iff.mp hd
    rw [toList_fragment, hfront, List.filter_append,
      List.filter_cons_of_pos (isInner_of_isEdge hcloses)]
    simp
  · rw [toList_fragment] at hb
    exact isInner_iff.mp (List.mem_filter.mp hb).2

theorem IsFragment.fragment_eq {s : String} (h : IsFragment s) : fragment s = s := by
  have hspans : Spans (isEdge · = true) s.toList s.toList := by
    simp only [isEdge_iff]
    exact ⟨⟨[], [], by simp, nofun, nofun⟩, h.opens, h.closes⟩
  have hwords : s.toList.filter isInner = s.toList :=
    List.filter_eq_self.mpr fun c hc => isInner_iff.mpr (h.words c hc)
  unfold fragment
  rw [hspans.trimTo_eq, hwords, String.ofList_toList]

theorem IsFragment.ne_empty {s : String} (h : IsFragment s) : s ≠ "" := by
  rintro rfl
  obtain ⟨c, hc, -⟩ := h.opens
  cases hc

theorem fragment_eq_empty (h : ∀ c ∈ name.toList, ¬ isEdge c = true) : fragment name = "" := by
  unfold fragment
  rw [trimTo_eq_nil_iff.mpr h]
  rfl

/-- A fragment is empty or has the form of fragments. -/
theorem fragment_cases (name : String) :
    (fragment name = "" ∧ ∀ c ∈ name.toList, ¬ isEdge c = true) ∨
      ((∃ c ∈ name.toList, isEdge c = true) ∧ IsFragment (fragment name)) := by
  by_cases h : ∃ c ∈ name.toList, isEdge c = true
  · exact .inr ⟨h, isFragment_fragment h⟩
  · have hnone : ∀ c ∈ name.toList, ¬ isEdge c = true := fun c hc hedge => h ⟨c, hc, hedge⟩
    exact .inl ⟨fragment_eq_empty hnone, hnone⟩

theorem fragment_fragment (name : String) : fragment (fragment name) = fragment name := by
  rcases fragment_cases name with ⟨hempty, -⟩ | ⟨-, hform⟩
  · rw [hempty]
    rfl
  · exact hform.fragment_eq

theorem fragment_eq_self_iff : fragment name = name ↔ name = "" ∨ IsFragment name := by
  constructor
  · intro h
    rcases fragment_cases name with ⟨hempty, -⟩ | ⟨-, hform⟩
    · exact .inl (h.symm.trans hempty)
    · exact .inr (h ▸ hform)
  · rintro (rfl | h)
    · rfl
    · exact h.fragment_eq

/-! ## Identifiers -/

theorem isValid_append {s t : String} (hs : isValid s = true)
    (ht : ∀ c ∈ t.toList, isContinue c = true) : isValid (s ++ t) = true := by
  obtain ⟨c, cs, hlist, hc, hcs⟩ := isValid_iff.mp hs
  refine isValid_iff.mpr ⟨c, cs ++ t.toList, ?_, hc, List.forall_mem_append.mpr ⟨hcs, ht⟩⟩
  rw [String.toList_append, hlist, List.cons_append]

theorem isContinue_of_mem_fragment : ∀ c ∈ (fragment name).toList, isContinue c = true := by
  intro c hc
  rw [toList_fragment] at hc
  unfold isContinue
  rw [(List.mem_filter.mp hc).2, Bool.true_or]

theorem IsFragment.isValid {s : String} (h : IsFragment s) : isValid s = true := by
  obtain ⟨c, hc, hopens⟩ := h.opens
  obtain ⟨rest, hrest⟩ := List.head?_eq_some_iff.mp hc
  refine isValid_iff.mpr ⟨c, rest, hrest, ?_, fun d hd => ?_⟩
  · unfold isStart
    rw [isEdge_iff.mpr hopens, Bool.true_or]
  · have hword := h.words d (by rw [hrest]; exact List.mem_cons_of_mem _ hd)
    unfold isContinue
    rw [isInner_iff.mpr hword, Bool.true_or]

end TypedLayouts.Identifier

namespace TypedLayouts.Module

open Identifier

/-- The ways in which generated modules make an identifier from a name. -/
def namings : List (String → String) :=
  [typeName, validatorName, portalsTypeName, portalsValidatorName, valueListTypeName,
    valueListValidatorName, clientName]

/-- Every name in a generated module is an identifier. -/
theorem isValid_of_mem_namings {naming : String → String} (h : naming ∈ namings) (name : String) :
    isValid (naming name) = true := by
  have hfragment : ∀ c ∈ (fragment name).toList, isContinue c = true := isContinue_of_mem_fragment
  have hportals : "Portals".toList.all isContinue = true := by decide
  have hclient : "Client".toList.all isContinue = true := by decide
  rw [List.all_eq_true] at hportals hclient
  unfold namings at h
  simp only [List.mem_cons, List.not_mem_nil, or_false] at h
  rcases h with rfl | rfl | rfl | rfl | rfl | rfl | rfl
  · exact isValid_append (by decide) hfragment
  · exact isValid_append (by decide) hfragment
  · exact isValid_append (isValid_append (by decide) hfragment) hportals
  · exact isValid_append (isValid_append (by decide) hfragment) hportals
  · exact isValid_append (by decide) hfragment
  · exact isValid_append (by decide) hfragment
  · -- Nothing stands in front of the fragment here, so it matters whether there is one.
    unfold clientName
    rcases fragment_cases name with ⟨hempty, -⟩ | ⟨-, hform⟩
    · rw [hempty]
      decide
    · exact isValid_append hform.isValid hclient

/-- Taking the fragment of a name is a projection onto the empty text and the texts that open and
close with a letter or underscore and have only letters, digits and underscores. The result is empty
when the name has no letter and no underscore. Otherwise it consists of the letters, digits and
underscores between the first and the last letter or underscore of the name, in order. Every name
that generated modules make from it is an identifier. -/
theorem fragment_projects (name : String) :
    (fragment name = "" ↔ ∀ c ∈ name.toList, ¬ IsLetter c) ∧
      (fragment name ≠ "" → IsFragment (fragment name) ∧
        ∃ part, Spans IsLetter part name.toList ∧
          (fragment name).toList = part.filter (IsWordCharacter ·)) ∧
      fragment (fragment name) = fragment name ∧
      (fragment name = name ↔ name = "" ∨ IsFragment name) ∧
      ∀ naming ∈ namings, isValid (naming name) = true := by
  have hletter : (fun c => isEdge c = true) = IsLetter := funext fun c => propext isEdge_iff
  have hword : isInner = (decide <| IsWordCharacter ·) :=
    funext fun c => Bool.eq_iff_iff.mpr (by rw [isInner_iff, decide_eq_true_eq])
  refine ⟨?_, fun hne => ?_, fragment_fragment name, fragment_eq_self_iff,
    fun naming h => isValid_of_mem_namings h name⟩
  · simp only [← isEdge_iff]
    rcases fragment_cases name with ⟨hempty, hnone⟩ | ⟨⟨c, hc, hedge⟩, hform⟩
    · exact iff_of_true hempty hnone
    · exact iff_of_false hform.ne_empty fun hnone => hnone c hc hedge
  · rcases fragment_cases name with ⟨hempty, -⟩ | ⟨hedge, hform⟩
    · exact absurd hempty hne
    · have hspans := spans_trimTo hedge
      rw [hletter] at hspans
      refine ⟨hform, _, hspans, ?_⟩
      rw [toList_fragment, hword]

end TypedLayouts.Module
