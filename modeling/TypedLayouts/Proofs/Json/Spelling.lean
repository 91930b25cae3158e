import TypedLayouts.Json.Decoder

/-!
# Texts that spell a value

A value has many texts: white space may stand around every part, and a character of a string can be
written as itself, behind a backslash, or as one or two 16-bit units in hexadecimal digits. `Spells`
says of a text that it spells a value, for all values without numbers. Whatever the spelling, a text
is read as the value, so what a decoder makes of a text depends on the value alone.
-/

namespace TypedLayouts.Json

open Reading

/-- Nothing but white space. -/
def Blank (t : List Char) : Prop :=
  ∀ c ∈ t, isBlank c = true

/-- Four hexadecimal digits with the value `n`. -/
inductive SpellsUnit : Nat → List Char → Prop where
  /-- Digits from the most significant one on. -/
  | digits {a b c d : Char} {w x y z : Nat} (ha : hexValue a = some w) (hb : hexValue b = some x)
      (hc : hexValue c = some y) (hd : hexValue d = some z) :
    SpellsUnit (((w * 16 + x) * 16 + y) * 16 + z) [a, b, c, d]

/-- A character of a string, as it stands between the quotes. -/
inductive SpellsChar : Char → List Char → Prop where
  /-- The character itself. -/
  | plain {c : Char} (hquote : c ≠ '"') (hbackslash : c ≠ '\\') (hcontrol : 0x20 ≤ c.toNat) :
    SpellsChar c [c]
  /-- A short escape. -/
  | short {c e : Char} (h : unescape e = some c) : SpellsChar c ['\\', e]
  /-- A unit that is a character of its own. -/
  | unit {n : Nat} {t : List Char} (h : SpellsUnit n t) (hleading : isLeading n = false)
      (htrailing : isTrailing n = false) : SpellsChar (Char.ofNat n) ('\\' :: 'u' :: t)
  /-- A pair of surrogates. -/
  | pair {n m : Nat} {t u : List Char} (h : SpellsUnit n t) (h' : SpellsUnit m u)
      (hleading : isLeading n = true) (htrailing : isTrailing m = true) :
    SpellsChar (Char.ofNat ((n - 0xD800) * 0x400 + (m - 0xDC00) + 0x10000))
      ('\\' :: 'u' :: (t ++ '\\' :: 'u' :: u))

/-- The characters of a string, as they stand between the quotes. -/
inductive SpellsChars : List Char → List Char → Prop where
  /-- There are none. -/
  | nil : SpellsChars [] []
  /-- One character, and the others. -/
  | cons {c : Char} {cs t u : List Char} (h : SpellsChar c t) (hs : SpellsChars cs u) :
    SpellsChars (c :: cs) (t ++ u)

mutual

/-- A text that spells a value, without white space at its ends. -/
inductive Spells : Json → List Char → Prop where
  /-- Nothing. -/
  | null : Spells .null ['n', 'u', 'l', 'l']
  /-- True. -/
  | isTrue : Spells (.bool true) ['t', 'r', 'u', 'e']
  /-- False. -/
  | isFalse : Spells (.bool false) ['f', 'a', 'l', 's', 'e']
  /-- A string. -/
  | string {s : String} {t : List Char} (h : SpellsChars s.toList t) :
    Spells (.string s) ('"' :: (t ++ ['"']))
  /-- An array. -/
  | array {items : List Json} {b t : List Char} (hb : Blank b) (h : SpellsItems items t) :
    Spells (.array items) ('[' :: (b ++ t))
  /-- An object. -/
  | object {members : List (String × Json)} {b t : List Char} (hb : Blank b)
      (h : SpellsMembers members t) : Spells (.object members) ('\x7b' :: (b ++ t))

/-- The items of an array up to its end. -/
inductive SpellsItems : List Json → List Char → Prop where
  /-- There are none. -/
  | nil : SpellsItems [] [']']
  /-- The last item. -/
  | last {v : Json} {t b : List Char} (h : Spells v t) (hb : Blank b) :
    SpellsItems [v] (t ++ (b ++ [']']))
  /-- An item with others behind it. -/
  | cons {v w : Json} {vs : List Json} {t b b' u : List Char} (h : Spells v t) (hb : Blank b)
      (hb' : Blank b') (hs : SpellsItems (w :: vs) u) :
    SpellsItems (v :: w :: vs) (t ++ (b ++ ',' :: (b' ++ u)))

/-- The members of an object up to its end. -/
inductive SpellsMembers : List (String × Json) → List Char → Prop where
  /-- There are none. -/
  | nil : SpellsMembers [] ['\x7d']
  /-- The last member. -/
  | last {key : String} {v : Json} {k b b' t b'' : List Char} (hk : SpellsChars key.toList k)
      (hb : Blank b) (hb' : Blank b') (h : Spells v t) (hb'' : Blank b'') :
    SpellsMembers [(key, v)] ('"' :: (k ++ '"' :: (b ++ ':' :: (b' ++ (t ++ (b'' ++ ['\x7d']))))))
  /-- A member with others behind it. -/
  | cons {key : String} {v : Json} {m : String × Json} {ms : List (String × Json)}
      {k b b' t b'' c u : List Char} (hk : SpellsChars key.toList k) (hb : Blank b)
      (hb' : Blank b') (h : Spells v t) (hb'' : Blank b'') (hc : Blank c)
      (hs : SpellsMembers (m :: ms) u) :
    SpellsMembers ((key, v) :: m :: ms)
      ('"' :: (k ++ '"' :: (b ++ ':' :: (b' ++ (t ++ (b'' ++ ',' :: (c ++ u)))))))

end

/-! ## White space -/

theorem skipBlanks_append {b t : List Char} (hb : Blank b) :
    skipBlanks (b ++ t) = skipBlanks t := by
  unfold skipBlanks
  exact List.dropWhile_append_of_pos hb

theorem skipBlanks_cons {c : Char} {t : List Char} (hc : isBlank c = false) :
    skipBlanks (c :: t) = c :: t := by
  unfold skipBlanks
  rw [List.dropWhile_cons_of_neg (by simp [hc])]

theorem skipBlanks_append_cons {b t : List Char} {c : Char} (hb : Blank b)
    (hc : isBlank c = false) : skipBlanks (b ++ c :: t) = c :: t := by
  rw [skipBlanks_append hb, skipBlanks_cons hc]

/-! ## Strings -/

section Strings

variable {c : Char} {cs t rest : List Char} {n : Nat}

theorem hex4_append (h : SpellsUnit n t) : hex4 (t ++ rest) = .ok (n, rest) := by
  cases h with
  | digits ha hb hc hd =>
    unfold hex4
    simp only [List.cons_append, List.nil_append, ha, hb, hc, hd]

theorem isTrailing_of_isLeading (h : isLeading n = true) : isTrailing n = false := by
  unfold isLeading isTrailing at *
  simp only [Bool.and_eq_true, decide_eq_true_eq, Bool.and_eq_false_iff, decide_eq_false_iff_not]
    at *
  omega

theorem keptChar_append (h : SpellsChar c t) : keptChar (t ++ rest) = .ok (some c, rest) := by
  cases h with
  | plain hquote hbackslash hcontrol =>
    have hprint : ¬ c.toNat < 0x20 := by omega
    simp [keptChar, hbackslash, hprint]
  | short h =>
    rename_i e
    have hu : e ≠ 'u' := by
      rintro rfl
      cases h
    simp [keptChar, h]
  | unit h hleading htrailing =>
    simp only [List.cons_append, keptChar, hex4_append h, hleading, htrailing]
    rfl
  | pair h h' hleading htrailing =>
    have hn := isTrailing_of_isLeading hleading
    simp only [List.cons_append, List.append_assoc, keptChar, hex4_append h, hleading, hn,
      hex4_append h', htrailing]
    rfl

theorem length_pos_of_spellsChar (h : SpellsChar c t) : 0 < t.length := by
  cases h with
  | plain => simp
  | short => simp
  | unit => simp
  | pair => simp

/-- A string is read up to its closing quote, with a step for each character. -/
theorem keepString_append (h : SpellsChars cs t) (hn : t.length < n) :
    keepString n (t ++ '"' :: rest) = .ok (cs, rest) := by
  induction h generalizing n with
  | nil =>
    obtain ⟨n, rfl⟩ := Nat.exists_eq_add_one_of_ne_zero (Nat.ne_of_gt hn)
    rfl
  | @cons c cs t u h hs ih =>
    obtain ⟨n, rfl⟩ := Nat.exists_eq_add_one_of_ne_zero (Nat.ne_of_gt (Nat.zero_lt_of_lt hn))
    have hpos := length_pos_of_spellsChar h
    have hu : u.length < n := by
      rw [List.length_append] at hn
      omega
    unfold keepString
    rw [List.append_assoc, keptChar_append h]
    dsimp only
    rw [ih hu]

theorem stringText_append {s : String} (h : SpellsChars s.toList t) :
    stringText (t ++ '"' :: rest) = (.ok s, .ok rest) := by
  have hn : t.length < (t ++ '"' :: rest).length + 1 := by
    simp only [List.length_append, List.length_cons]
    omega
  unfold stringText
  rw [keepString_append h hn]
  dsimp only
  rw [String.ofList_toList]

end Strings

/-! ## Values -/

/-- The parts of a text behind a value: none of them begins with white space. -/
theorem Spells.cons {v : Json} {t : List Char} (h : Spells v t) :
    ∃ c u, t = c :: u ∧ isBlank c = false ∧ c ≠ ']' := by
  cases h with
  | null => exact ⟨_, _, rfl, rfl, by decide⟩
  | isTrue => exact ⟨_, _, rfl, rfl, by decide⟩
  | isFalse => exact ⟨_, _, rfl, rfl, by decide⟩
  | string => exact ⟨_, _, rfl, rfl, by decide⟩
  | array => exact ⟨_, _, rfl, rfl, by decide⟩
  | object => exact ⟨_, _, rfl, rfl, by decide⟩

/-- How a text in front of others is read, in `n` steps. -/
structure ReadsIn (n : Nat) : Prop where
  /-- A value. -/
  value {v : Json} {t : List Char} (h : Spells v t) (hn : 2 * t.length ≤ n)
      (rest : List Char) : readValue n (t ++ rest) = (v.toReading, some rest)
  /-- The items of an array. -/
  items {v : Json} {vs : List Json} {t : List Char} (h : SpellsItems (v :: vs) t)
      (hn : 2 * t.length ≤ n + 1) (rest : List Char) :
    readItems n (t ++ rest) = ((toReadings (v :: vs), none), some rest)
  /-- The members of an object. -/
  members {m : String × Json} {ms : List (String × Json)} {t : List Char}
      (h : SpellsMembers (m :: ms) t) (hn : 2 * t.length ≤ n + 1) (rest : List Char) :
    readMembers n (t ++ rest) = ((toMembers (m :: ms), none), some rest)

theorem readsIn_zero : ReadsIn 0 where
  value h hn := by
    obtain ⟨c, u, rfl, -⟩ := h.cons
    simp at hn
  items h hn := by
    cases h with
    | last =>
      simp only [List.length_append, List.length_cons] at hn
      omega
    | cons =>
      simp only [List.length_append, List.length_cons] at hn
      omega
  members h hn := by
    cases h with
    | last =>
      simp only [List.length_append, List.length_cons] at hn
      omega
    | cons =>
      simp only [List.length_append, List.length_cons] at hn
      omega

/-! One equation for each way in which a value or a part of it goes on. -/

section Equations

variable {n : Nat} {c : Char} {t u rest : List Char}

theorem readValue_string {s : String} (h : stringText t = (.ok s, .ok rest)) :
    readValue (n + 1) ('"' :: t) = (.string (.ok s), some rest) := by
  rw [readValue, skipBlanks_cons (by decide)]
  simp only [h]

/-- White space in front of a value is passed over. -/
theorem readValue_append (hb : Blank u) : readValue n (u ++ t) = readValue n t := by
  cases n with
  | zero => rfl
  | succ n => rw [readValue, readValue, skipBlanks_append hb]

theorem readValue_array_nil (h : skipBlanks t = ']' :: rest) :
    readValue (n + 1) ('[' :: t) = (.array [] none, some rest) := by
  rw [readValue, skipBlanks_cons (by decide)]
  simp only [h]

theorem readValue_array_cons (h : skipBlanks t = c :: u) (hc : c ≠ ']') :
    readValue (n + 1) ('[' :: t) =
      (let r := readItems n (c :: u)
      (.array r.1.1 r.1.2, r.2)) := by
  rw [readValue, skipBlanks_cons (by decide)]
  simp [h, hc]

theorem readValue_object_nil (h : skipBlanks t = '\x7d' :: rest) :
    readValue (n + 1) ('\x7b' :: t) = (.object [] none, some rest) := by
  rw [readValue, skipBlanks_cons (by decide)]
  simp only [h]

theorem readValue_object_cons (h : skipBlanks t = '"' :: u) :
    readValue (n + 1) ('\x7b' :: t) =
      (let r := readMembers n ('"' :: u)
      (.object r.1.1 r.1.2, r.2)) := by
  rw [readValue, skipBlanks_cons (by decide)]
  simp [h]

theorem readItems_last {r : Reading} (hv : readValue n t = (r, some u))
    (h : skipBlanks u = ']' :: rest) : readItems (n + 1) t = (([r], none), some rest) := by
  rw [readItems, hv]
  simp only [h]

theorem readItems_more {r : Reading} {w : List Char} (hv : readValue n t = (r, some u))
    (h : skipBlanks u = ',' :: w) (hw : skipBlanks w = c :: rest) (hc : c ≠ ']') :
    readItems (n + 1) t =
      (let more := readItems n (c :: rest)
      ((r :: more.1.1, more.1.2), more.2)) := by
  rw [readItems, hv]
  simp [h, hw, hc]

theorem readMembers_last {key : String} {r : Reading} {w x : List Char}
    (hkey : stringText t = (.ok key, .ok u)) (hu : skipBlanks u = ':' :: w)
    (hv : readValue n w = (r, some x)) (h : skipBlanks x = '\x7d' :: rest) :
    readMembers (n + 1) ('"' :: t) = (([(.ok key, r)], none), some rest) := by
  rw [readMembers]
  simp only [hkey, hu, hv, h]

theorem readMembers_more {key : String} {r : Reading} {w x : List Char}
    (hkey : stringText t = (.ok key, .ok u)) (hu : skipBlanks u = ':' :: w)
    (hv : readValue n w = (r, some x)) (h : skipBlanks x = ',' :: rest) :
    readMembers (n + 1) ('"' :: t) =
      (let more := readMembers n (skipBlanks rest)
      (((.ok key, r) :: more.1.1, more.1.2), more.2)) := by
  rw [readMembers]
  simp only [hkey, hu, hv, h]

end Equations

section Induction

variable {n : Nat} {v : Json} {m : String × Json} {vs : List Json} {ms : List (String × Json)}
  {t rest : List Char}

theorem SpellsItems.cons_inv (h : SpellsItems (v :: vs) t) :
    ∃ c u, t = c :: u ∧ isBlank c = false ∧ c ≠ ']' := by
  cases h with
  | last h =>
    obtain ⟨c, u, rfl, hc⟩ := h.cons
    exact ⟨c, _, rfl, hc⟩
  | cons h =>
    obtain ⟨c, u, rfl, hc⟩ := h.cons
    exact ⟨c, _, rfl, hc⟩

theorem SpellsMembers.cons_inv (h : SpellsMembers (m :: ms) t) : ∃ u, t = '"' :: u := by
  cases h with
  | last => exact ⟨_, rfl⟩
  | cons => exact ⟨_, rfl⟩

theorem readValue_succ (ih : ReadsIn n) (h : Spells v t) (hn : 2 * t.length ≤ n + 1)
    (rest : List Char) : readValue (n + 1) (t ++ rest) = (v.toReading, some rest) := by
  cases h with
  | null => rfl
  | isTrue => rfl
  | isFalse => rfl
  | string h =>
    rw [List.cons_append, List.append_assoc]
    exact readValue_string (stringText_append h)
  | @array items b t hb h =>
    rw [List.length_cons, List.length_append] at hn
    rw [List.cons_append, List.append_assoc]
    cases items with
    | nil =>
      cases h with
      | nil => exact readValue_array_nil (skipBlanks_append_cons hb (by decide))
    | cons v vs =>
      have hitems := ih.items h (by omega) rest
      obtain ⟨c, u, rfl, hblank, hc⟩ := h.cons_inv
      rw [List.cons_append] at hitems ⊢
      rw [readValue_array_cons (skipBlanks_append_cons hb hblank) hc, hitems]
      rfl
  | @object members b t hb h =>
    rw [List.length_cons, List.length_append] at hn
    rw [List.cons_append, List.append_assoc]
    cases members with
    | nil =>
      cases h with
      | nil => exact readValue_object_nil (skipBlanks_append_cons hb (by decide))
    | cons m ms =>
      have hmembers := ih.members h (by omega) rest
      obtain ⟨u, rfl⟩ := h.cons_inv
      rw [List.cons_append] at hmembers ⊢
      rw [readValue_object_cons (skipBlanks_append_cons hb (by decide)), hmembers]
      rfl

theorem readItems_succ (ih : ReadsIn n) (h : SpellsItems (v :: vs) t)
    (hn : 2 * t.length ≤ n + 2) (rest : List Char) :
    readItems (n + 1) (t ++ rest) = ((toReadings (v :: vs), none), some rest) := by
  cases h with
  | @last v t b h hb =>
    simp only [List.length_append, List.length_cons, List.length_nil] at hn
    simp only [List.append_assoc, List.singleton_append]
    have hvalue := ih.value h (by omega) (b ++ ']' :: rest)
    rw [readItems_last hvalue (skipBlanks_append_cons hb (by decide))]
    rfl
  | @cons v w vs t b b' u h hb hb' hs =>
    simp only [List.length_append, List.length_cons] at hn
    simp only [List.append_assoc, List.cons_append]
    have hvalue := ih.value h (by omega) (b ++ ',' :: (b' ++ (u ++ rest)))
    have hmore := ih.items hs (by omega) rest
    obtain ⟨c, u, rfl, hblank, hc⟩ := hs.cons_inv
    rw [List.cons_append] at hmore hvalue ⊢
    rw [readItems_more hvalue (skipBlanks_append_cons hb (by decide))
      (skipBlanks_append_cons hb' hblank) hc, hmore]
    rfl

theorem readMembers_succ (ih : ReadsIn n) (h : SpellsMembers (m :: ms) t)
    (hn : 2 * t.length ≤ n + 2) (rest : List Char) :
    readMembers (n + 1) (t ++ rest) = ((toMembers (m :: ms), none), some rest) := by
  cases h with
  | @last key v k b b' t b'' hk hb hb' h hb'' =>
    simp only [List.length_append, List.length_cons, List.length_nil] at hn
    simp only [List.cons_append, List.append_assoc, List.nil_append]
    have hvalue := ih.value h (by omega) (b'' ++ '\x7d' :: rest)
    rw [readMembers_last (stringText_append hk) (skipBlanks_append_cons hb (by decide))
      ((readValue_append hb').trans hvalue) (skipBlanks_append_cons hb'' (by decide))]
    rfl
  | @cons key v m ms k b b' t b'' c u hk hb hb' h hb'' hc hs =>
    simp only [List.length_append, List.length_cons] at hn
    simp only [List.cons_append, List.append_assoc]
    have hvalue := ih.value h (by omega) (b'' ++ ',' :: (c ++ (u ++ rest)))
    have hmore := ih.members hs (by omega) rest
    obtain ⟨u, rfl⟩ := hs.cons_inv
    have hnext : skipBlanks (c ++ ('"' :: u ++ rest)) = '"' :: u ++ rest :=
      skipBlanks_append_cons hc (by decide)
    rw [readMembers_more (stringText_append hk) (skipBlanks_append_cons hb (by decide))
      ((readValue_append hb').trans hvalue) (skipBlanks_append_cons hb'' (by decide)), hnext,
      hmore]
    rfl

/-- However many steps there are, they suffice for texts of half that length. -/
theorem readsIn (n : Nat) : ReadsIn n := by
  induction n with
  | zero => exact readsIn_zero
  | succ n ih => exact ⟨readValue_succ ih, readItems_succ ih, readMembers_succ ih⟩

end Induction

/-! ## Whole texts -/

/-- A text spells a value, perhaps with white space around it. -/
def IsTextOf (text : String) (v : Json) : Prop :=
  ∃ b t b', Blank b ∧ Spells v t ∧ Blank b' ∧ text.toList = b ++ (t ++ b')

/-- A text is read as the value that it spells. -/
theorem Reading.ofText_eq {text : String} {v : Json} (h : IsTextOf text v) :
    Reading.ofText text = (v.toReading, false) := by
  obtain ⟨b, t, b', hb, ht, hb', htext⟩ := h
  have hn : 2 * t.length ≤ 2 * text.toList.length + 2 := by
    rw [htext, List.length_append, List.length_append]
    omega
  have hread : readValue (2 * text.toList.length + 2) text.toList = (v.toReading, some b') := by
    rw [htext] at hn ⊢
    rw [readValue_append hb]
    exact (readsIn _).value ht hn b'
  have hend : skipBlanks b' = [] := by
    have happend := skipBlanks_append (t := []) hb'
    rwa [List.append_nil] at happend
  unfold Reading.ofText
  dsimp only
  rw [hread]
  simp [hend]

/-- What a decoder makes of a text depends on the value that the text spells. -/
theorem Decoder.ofText_eq {α : Type} {d : Decoder α} {text : String} {v : Json}
    (h : IsTextOf text v) : Decoder.ofText d text = d v.toReading := by
  unfold Decoder.ofText
  rw [Reading.ofText_eq h]
  dsimp only
  cases d v.toReading with
  | error e => rfl
  | ok a => rfl

end TypedLayouts.Json
