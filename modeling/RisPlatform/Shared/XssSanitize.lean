import RisPlatform.Common.Regex
import RisPlatform.Common.Utf16

/-!
# Sanitising request bodies

The middleware `xss-sanitize`: five replacements, one after the other, on every string of a body, the last
of them (tags) left out for the fields that may contain markup. Texts are lists of code units, as the
patterns read them.

Of every match in a string of the body at least one unit is cut, and outside those fields no string of
the result has a tag (`sanitizeValue_breaks`). But each replacement goes over the text once, so what cuts
bring together stays: nothing is left to remove if and only if they bring no match together
(`sanitizeValue_complete_iff`).
-/

namespace Ris.XssSanitize

open Regex Utf16

/-! ## The patterns -/

/-- Only letters of ASCII are the same as another unit under the flag `i`. -/
def canonicalize (x : UInt16) : UInt16 := if 97 ≤ x ∧ x ≤ 122 then x - 32 else x

/-- `\w` -/
def isWord (x : UInt16) : Bool :=
  (48 ≤ x && x ≤ 57) || (65 ≤ x && x ≤ 90) || x == 95 || (97 ≤ x && x ≤ 122)

/-- `<` and `>` -/
def lt : UInt16 := 60

def gt : UInt16 := 62

/-- A literal under the flag `i`. -/
def ignoreCase (s : String) : Regex UInt16 :=
  word ((units s).map fun c x => canonicalize x == canonicalize c)

/-- `<name\b[^<]*(?:(?!<\/name>)<[^<]*)*<\/name>`. Behind the name, a boundary is where no word goes on. -/
def elementPattern (name : String) : Regex UInt16 :=
  .seq
    (.seq (ignoreCase ("<" ++ name)) (.seq (.notAhead (.one isWord)) (.seq (.star (.one (· != lt)))
      (.star (.seq (.notAhead (ignoreCase ("</" ++ name ++ ">"))) (.seq (.one (· == lt))
        (.star (.one (· != lt)))))))))
    (ignoreCase ("</" ++ name ++ ">"))

def scriptPattern : Regex UInt16 := elementPattern "script"

def iframePattern : Regex UInt16 := elementPattern "iframe"

/-- `javascript\s*:` -/
def javascriptPattern : Regex UInt16 :=
  .seq (ignoreCase "javascript") (.seq (.star (.one isSpace)) (ignoreCase ":"))

/-- `on\w+\s*=` -/
def handlerPattern : Regex UInt16 :=
  .seq (ignoreCase "on") (.seq (.one isWord) (.seq (.star (.one isWord)) (.seq (.star (.one isSpace))
    (ignoreCase "="))))

/-- `<[^>]*>` -/
def tagPattern : Regex UInt16 :=
  .seq (.one (· == lt)) (.seq (.star (.one (· != gt))) (.one (· == gt)))

/-! ## The sanitiser -/

def RICH_TEXT_FIELDS : List Text := [units "notes", units "description"]

def sanitizeString (value : Text) : Text :=
  tagPattern.removeAll (handlerPattern.removeAll (javascriptPattern.removeAll
    (iframePattern.removeAll (scriptPattern.removeAll value))))

def sanitizeRichText (value : Text) : Text :=
  handlerPattern.removeAll (javascriptPattern.removeAll
    (iframePattern.removeAll (scriptPattern.removeAll value)))

/-- A body: numbers by the bits of their doubles, objects by their own fields. -/
inductive Value where
  | null
  | boolean (b : Bool)
  | number (bits : UInt64)
  | string (value : Text)
  | array (items : List Value)
  | object (fields : List (Text × Value))

/-- The field is named, by a name that is not empty, and may contain markup. -/
def richText (fieldName : Option Text) : Bool :=
  match fieldName with
  | none => false
  | some name => name != [] && RICH_TEXT_FIELDS.contains name

def sanitizeText (fieldName : Option Text) (value : Text) : Text :=
  if richText fieldName then sanitizeRichText value else sanitizeString value

/-- The name under which an assignment makes no field: it sets the prototype. -/
def proto : Text := units "__proto__"

mutual

def sanitizeValue (fieldName : Option Text) : Value → Value
  | .null => .null
  | .boolean b => .boolean b
  | .number bits => .number bits
  | .string value => .string (sanitizeText fieldName value)
  | .array items => .array (sanitizeItems fieldName items)
  | .object fields => .object (sanitizeFields fields)

def sanitizeItems (fieldName : Option Text) : List Value → List Value
  | [] => []
  | item :: items => sanitizeValue fieldName item :: sanitizeItems fieldName items

/-- The names of an object's fields are distinct, so each assignment makes a field of its own. -/
def sanitizeFields : List (Text × Value) → List (Text × Value)
  | [] => []
  | (key, val) :: fields =>
    if key = proto then sanitizeFields fields
    else (key, sanitizeValue (some key) val) :: sanitizeFields fields

end

/-! ## What it is written to remove -/

/-- The patterns that are replaced in a field's strings, in order. -/
def patterns (fieldName : Option Text) : List (Regex UInt16) :=
  [scriptPattern, iframePattern, javascriptPattern, handlerPattern] ++
    if richText fieldName then [] else [tagPattern]

theorem sanitizeText_eq (fieldName : Option Text) (value : Text) :
    sanitizeText fieldName value = removeEach (patterns fieldName) value := by
  unfold sanitizeText patterns
  split <;> rfl

/-- A string and the name of the field it is read for. -/
structure Leaf where
  fieldName : Option Text
  text : Text

/-- No pattern of the field occurs in the string. -/
def Leaf.Clean (leaf : Leaf) : Prop := ∀ r ∈ patterns leaf.fieldName, ¬ r.Occurs leaf.text

mutual

/-- The strings of a value at any depth. -/
def Value.strings (fieldName : Option Text) : Value → List Leaf
  | .string value => [⟨fieldName, value⟩]
  | .array items => itemStrings fieldName items
  | .object fields => fieldStrings fields
  | _ => []

def itemStrings (fieldName : Option Text) : List Value → List Leaf
  | [] => []
  | item :: items => item.strings fieldName ++ itemStrings fieldName items

def fieldStrings : List (Text × Value) → List Leaf
  | [] => []
  | (key, val) :: fields => val.strings (some key) ++ fieldStrings fields

end

mutual

/-- The strings of a value at any depth, but for those under a name that makes no field. -/
def Value.assigned (fieldName : Option Text) : Value → List Leaf
  | .string value => [⟨fieldName, value⟩]
  | .array items => itemsAssigned fieldName items
  | .object fields => fieldsAssigned fields
  | _ => []

def itemsAssigned (fieldName : Option Text) : List Value → List Leaf
  | [] => []
  | item :: items => item.assigned fieldName ++ itemsAssigned fieldName items

def fieldsAssigned : List (Text × Value) → List Leaf
  | [] => []
  | (key, val) :: fields =>
    if key = proto then fieldsAssigned fields
    else val.assigned (some key) ++ fieldsAssigned fields

end

/-! ## The patterns stand alone -/

theorem length_units_pos {s : String} (h : s.toList ≠ []) : 0 < (units s).length := by
  rw [units, List.length_map]
  exact List.length_pos_iff.2 h

theorem length_of_matches_ignoreCase {s : String} {u v : Text} (h : (ignoreCase s).Matches u v) :
    u.length = (units s).length := by
  rw [length_of_matches_word h, List.length_map]

theorem plain_ignoreCase (s : String) : (ignoreCase s).Plain := plain_word _

/-- The lookaheads read no more than the end tag, which is there. -/
theorem elementPattern_standalone (name : String) : (elementPattern name).Standalone := by
  have hpos : 0 < (units ("</" ++ name ++ ">")).length := by
    apply length_units_pos
    rw [String.toList_append, String.toList_append]
    exact List.append_ne_nil_of_right_ne_nil _ (by decide)
  refine AheadWithin.standalone (k := (units ("</" ++ name ++ ">")).length) ?_ (plain_ignoreCase _) hpos
    fun u v h => Nat.le_of_eq (length_of_matches_ignoreCase h).symm
  refine ⟨(plain_ignoreCase _).aheadWithin _, ⟨trivial, ?_⟩, trivial, ⟨plain_ignoreCase _, ?_⟩, trivial, trivial⟩
  · rintro _ v ⟨x, rfl, -⟩
    exact hpos
  · exact fun u v h => Nat.le_of_eq (length_of_matches_ignoreCase h)

theorem seq_ignoreCase_standalone {s : String} (hs : s.toList ≠ []) {r : Regex UInt16} (hr : r.Plain) :
    (Regex.seq (ignoreCase s) r).Standalone := by
  refine Plain.standalone ⟨plain_ignoreCase s, hr⟩ ?_
  rintro v ⟨u₁, u₂, hu, h₁, -⟩
  have hlen := length_of_matches_ignoreCase h₁
  rw [(List.append_eq_nil_iff.1 hu.symm).1] at hlen
  exact absurd hlen.symm (Nat.ne_of_gt (length_units_pos hs))

theorem tagPattern_standalone : tagPattern.Standalone := by
  refine Plain.standalone ⟨trivial, trivial, trivial⟩ ?_
  rintro v ⟨_, u₂, hu, ⟨x, rfl, -⟩, -⟩
  exact absurd hu (List.cons_ne_nil _ _).symm

theorem patterns_standalone (fieldName : Option Text) : ∀ r ∈ patterns fieldName, r.Standalone := by
  intro r hr
  rw [patterns, List.mem_append] at hr
  rcases hr with hr | hr
  · simp only [List.mem_cons, List.not_mem_nil, or_false] at hr
    rcases hr with rfl | rfl | rfl | rfl
    · exact elementPattern_standalone "script"
    · exact elementPattern_standalone "iframe"
    · exact seq_ignoreCase_standalone (by decide) ⟨trivial, plain_ignoreCase _⟩
    · exact seq_ignoreCase_standalone (by decide) ⟨trivial, trivial, trivial, plain_ignoreCase _⟩
  · split at hr
    · exact absurd hr List.not_mem_nil
    · rw [List.mem_singleton.1 hr]
      exact tagPattern_standalone

/-! ## Tags -/

theorem matches_tagPattern {u v : Text} :
    tagPattern.Matches u v ↔ ∃ m, u = lt :: (m ++ [gt]) ∧ gt ∉ m := by
  constructor
  · rintro ⟨_, _, rfl, ⟨x, rfl, hx⟩, m, _, rfl, hm, y, rfl, hy⟩
    obtain rfl := beq_iff_eq.1 hx
    obtain rfl := beq_iff_eq.1 hy
    refine ⟨m, rfl, fun hgt => ?_⟩
    exact absurd (matches_star_one.1 hm gt hgt) (by decide)
  · rintro ⟨m, rfl, hm⟩
    refine ⟨[lt], m ++ [gt], rfl, ⟨lt, rfl, rfl⟩, m, [gt], rfl, matches_star_one.2 fun x hx => ?_, gt, rfl, rfl⟩
    rw [bne_iff_ne]
    rintro rfl
    exact hm hx

/-- A tag is where some `>` stands behind some `<`. -/
theorem occurs_tagPattern {t : Text} : tagPattern.Occurs t ↔ ∃ a b, t = a ++ lt :: b ∧ gt ∈ b := by
  constructor
  · rintro ⟨u, ⟨a, c, rfl⟩, hu⟩
    obtain ⟨m, rfl, -⟩ := matches_tagPattern.1 hu
    refine ⟨a, m ++ [gt] ++ c, ?_, ?_⟩
    · rw [List.append_assoc, List.cons_append]
    · exact List.mem_append_left _ (List.mem_append_right _ (List.mem_singleton_self gt))
  · rintro ⟨a, b, rfl, hb⟩
    obtain ⟨m, c, rfl, hm⟩ := List.eq_append_cons_of_mem hb
    refine ⟨lt :: (m ++ [gt]), ⟨a, c, ?_⟩, matches_tagPattern.2 ⟨m, rfl, hm⟩⟩
    simp only [List.append_assoc, List.cons_append, List.nil_append]

/-- Behind a `<` that is kept there was no `>`, so none is left. -/
theorem not_occurs_sweep_tagPattern (skip : ℕ) (t : Text) :
    ¬ tagPattern.Occurs (tagPattern.sweep skip t) := by
  rw [occurs_tagPattern]
  rintro ⟨a, b, hab, hb⟩
  induction t generalizing skip a with
  | nil =>
    cases skip <;> exact absurd hab.symm (List.append_ne_nil_of_right_ne_nil _ (List.cons_ne_nil _ _))
  | cons x t ih =>
    cases skip with
    | succ skip => exact ih skip a hab
    | zero =>
      rw [sweep] at hab
      split at hab
      · exact ih _ a hab
      · next hno =>
        cases a with
        | cons y a => exact ih 0 a (List.cons_eq_cons.1 hab).2
        | nil =>
          obtain ⟨rfl, rfl⟩ := List.cons_eq_cons.1 hab
          obtain ⟨m, c, rfl, hm⟩ := List.eq_append_cons_of_mem ((sweep_sublist ..).mem hb)
          obtain ⟨n, hn⟩ := tagPattern_standalone.exists_first (matches_tagPattern.2 ⟨m, rfl, hm⟩) c
          refine hno n (Eq.trans (congrArg _ ?_) hn)
          simp only [List.append_assoc, List.cons_append, List.nil_append]

theorem eq_lt_of_canonicalize {x : UInt16} (h : canonicalize x = lt) : x = lt := by
  unfold canonicalize lt at *
  grind

theorem eq_gt_of_canonicalize {x : UInt16} (h : canonicalize x = gt) : x = gt := by
  unfold canonicalize gt at *
  grind

theorem matches_ignoreCase {s : String} {u v : Text} (h : (ignoreCase s).Matches u v) :
    u.map canonicalize = (units s).map canonicalize := by
  have h' := matches_word.1 h
  rw [List.forall₂_map_left_iff] at h'
  clear h
  generalize units s = cs at h'
  induction h' with
  | nil => rfl
  | cons hx _ ih => exact List.cons_eq_cons.2 ⟨beq_iff_eq.1 hx, ih⟩

/-- An element begins with `<` and ends with `>`. -/
theorem occurs_tagPattern_of_elementPattern {name : String} {t : Text}
    (h : (elementPattern name).Occurs t) :
    tagPattern.Occurs t := by
  obtain ⟨_, ⟨a, c, rfl⟩, _, u₃, rfl, ⟨u₁, u₂, rfl, h₁, -⟩, h₃⟩ := h
  have hopen := matches_ignoreCase h₁
  have hclose := matches_ignoreCase h₃
  rw [units_append, List.map_append] at hopen hclose
  obtain ⟨x, u₁', rfl⟩ : ∃ x u₁', u₁ = x :: u₁' := by
    apply List.exists_cons_of_ne_nil
    rintro rfl
    exact absurd hopen.symm (List.cons_ne_nil _ _)
  obtain rfl : x = lt := eq_lt_of_canonicalize (List.cons_eq_cons.1 hopen).1
  obtain ⟨b, e, rfl, -, he⟩ := List.map_eq_append_iff.1 hclose
  obtain ⟨y, _, rfl, hy, hnil⟩ := List.map_eq_cons_iff.1 he
  obtain rfl : y = gt := eq_gt_of_canonicalize hy
  refine occurs_tagPattern.2 ⟨a, u₁' ++ u₂ ++ (b ++ [gt]) ++ c, ?_, ?_⟩
  · rw [List.map_eq_nil_iff.1 hnil]
    simp only [List.append_assoc, List.cons_append, List.nil_append]
  · exact List.mem_append_left _ (List.mem_append_right _ (List.mem_append_right _ (List.mem_singleton_self gt)))

/-- Outside the fields that may contain markup no element and no other tag is left. -/
theorem not_occurs_of_not_richText {fieldName : Option Text} (h : richText fieldName = false)
    (value : Text) :
    ∀ r ∈ [scriptPattern, iframePattern, tagPattern], ¬ r.Occurs (sanitizeText fieldName value) := by
  have htag : ¬ tagPattern.Occurs (sanitizeText fieldName value) := by
    rw [sanitizeText, h]
    exact not_occurs_sweep_tagPattern 0 _
  intro r hr
  simp only [List.mem_cons, List.not_mem_nil, or_false] at hr
  rcases hr with rfl | rfl | rfl
  · exact fun hr => htag (occurs_tagPattern_of_elementPattern hr)
  · exact fun hr => htag (occurs_tagPattern_of_elementPattern hr)
  · exact htag

/-! ## Values -/

def Leaf.sanitize (leaf : Leaf) : Leaf := ⟨leaf.fieldName, sanitizeText leaf.fieldName leaf.text⟩

mutual

theorem strings_sanitizeValue (fieldName : Option Text) : (value : Value) →
    (sanitizeValue fieldName value).strings fieldName = (value.assigned fieldName).map Leaf.sanitize
  | .null => rfl
  | .boolean _ => rfl
  | .number _ => rfl
  | .string _ => rfl
  | .array items => strings_sanitizeItems fieldName items
  | .object fields => strings_sanitizeFields fields

theorem strings_sanitizeItems (fieldName : Option Text) : (items : List Value) →
    itemStrings fieldName (sanitizeItems fieldName items) =
      (itemsAssigned fieldName items).map Leaf.sanitize
  | [] => rfl
  | item :: items => by
    rw [sanitizeItems, itemStrings, itemsAssigned, List.map_append, strings_sanitizeValue fieldName item,
      strings_sanitizeItems fieldName items]

theorem strings_sanitizeFields : (fields : List (Text × Value)) →
    fieldStrings (sanitizeFields fields) = (fieldsAssigned fields).map Leaf.sanitize
  | [] => rfl
  | (key, val) :: fields => by
    rw [sanitizeFields, fieldsAssigned]
    split
    · exact strings_sanitizeFields fields
    · rw [fieldStrings, List.map_append, strings_sanitizeValue (some key) val,
        strings_sanitizeFields fields]

end

mutual

theorem assigned_sublist (fieldName : Option Text) : (value : Value) →
    (value.assigned fieldName).Sublist (value.strings fieldName)
  | .null => List.Sublist.refl _
  | .boolean _ => List.Sublist.refl _
  | .number _ => List.Sublist.refl _
  | .string _ => List.Sublist.refl _
  | .array items => itemsAssigned_sublist fieldName items
  | .object fields => fieldsAssigned_sublist fields

theorem itemsAssigned_sublist (fieldName : Option Text) : (items : List Value) →
    (itemsAssigned fieldName items).Sublist (itemStrings fieldName items)
  | [] => List.Sublist.refl _
  | item :: items => by
    rw [itemsAssigned, itemStrings]
    exact (assigned_sublist fieldName item).append (itemsAssigned_sublist fieldName items)

theorem fieldsAssigned_sublist : (fields : List (Text × Value)) →
    (fieldsAssigned fields).Sublist (fieldStrings fields)
  | [] => List.Sublist.refl _
  | (key, val) :: fields => by
    have ih := fieldsAssigned_sublist fields
    rw [fieldsAssigned, fieldStrings]
    split
    · exact ih.trans (List.sublist_append_right _ _)
    · exact (assigned_sublist (some key) val).append ih

end

theorem sanitizeText_eq_self_iff {fieldName : Option Text} {value : Text} :
    sanitizeText fieldName value = value ↔ Leaf.Clean ⟨fieldName, value⟩ := by
  rw [sanitizeText_eq]
  exact removeEach_eq_self_iff (patterns_standalone fieldName)

mutual

theorem sanitizeValue_idem_iff (fieldName : Option Text) : (value : Value) →
    (sanitizeValue fieldName (sanitizeValue fieldName value) = sanitizeValue fieldName value ↔
      ∀ leaf ∈ (sanitizeValue fieldName value).strings fieldName, leaf.Clean)
  | .null => ⟨fun _ _ h => absurd h List.not_mem_nil, fun _ => rfl⟩
  | .boolean _ => ⟨fun _ _ h => absurd h List.not_mem_nil, fun _ => rfl⟩
  | .number _ => ⟨fun _ _ h => absurd h List.not_mem_nil, fun _ => rfl⟩
  | .string value => by
    rw [sanitizeValue, sanitizeValue, Value.string.injEq, sanitizeText_eq_self_iff]
    exact List.forall_mem_singleton.symm
  | .array items => by
    rw [sanitizeValue, sanitizeValue, Value.array.injEq]
    exact sanitizeItems_idem_iff fieldName items
  | .object fields => by
    rw [sanitizeValue, sanitizeValue, Value.object.injEq]
    exact sanitizeFields_idem_iff fields

theorem sanitizeItems_idem_iff (fieldName : Option Text) : (items : List Value) →
    (sanitizeItems fieldName (sanitizeItems fieldName items) = sanitizeItems fieldName items ↔
      ∀ leaf ∈ itemStrings fieldName (sanitizeItems fieldName items), leaf.Clean)
  | [] => ⟨fun _ _ h => absurd h List.not_mem_nil, fun _ => rfl⟩
  | item :: items => by
    rw [sanitizeItems, sanitizeItems, List.cons_eq_cons, sanitizeValue_idem_iff fieldName item,
      sanitizeItems_idem_iff fieldName items, itemStrings, List.forall_mem_append]

theorem sanitizeFields_idem_iff : (fields : List (Text × Value)) →
    (sanitizeFields (sanitizeFields fields) = sanitizeFields fields ↔
      ∀ leaf ∈ fieldStrings (sanitizeFields fields), leaf.Clean)
  | [] => ⟨fun _ _ h => absurd h List.not_mem_nil, fun _ => rfl⟩
  | (key, val) :: fields => by
    rw [sanitizeFields]
    split
    · exact sanitizeFields_idem_iff fields
    · next hkey =>
      rw [sanitizeFields, if_neg hkey, List.cons_eq_cons, Prod.mk.injEq, sanitizeValue_idem_iff (some key) val,
        sanitizeFields_idem_iff fields, fieldStrings, List.forall_mem_append]
      exact and_congr_left' (and_iff_right rfl)

end

/-- What sanitising a body gives: outside the fields that may contain markup no tag, in every string a cut
in each match the string had, and a result that is kept by a second sanitising if no pattern occurs in
it. -/
theorem sanitizeValue_breaks (fieldName : Option Text) (value : Value) :
    (∀ leaf ∈ (sanitizeValue fieldName value).strings fieldName,
      (richText leaf.fieldName = false →
        ∀ r ∈ [scriptPattern, iframePattern, tagPattern], ¬ r.Occurs leaf.text) ∧
      ∃ text, ⟨leaf.fieldName, text⟩ ∈ value.strings fieldName ∧
        Breaks (patterns leaf.fieldName) text leaf.text) ∧
    (sanitizeValue fieldName (sanitizeValue fieldName value) = sanitizeValue fieldName value ↔
      ∀ leaf ∈ (sanitizeValue fieldName value).strings fieldName, leaf.Clean) := by
  refine ⟨fun leaf hleaf => ?_, sanitizeValue_idem_iff fieldName value⟩
  rw [strings_sanitizeValue] at hleaf
  obtain ⟨leaf, hmem, rfl⟩ := List.mem_map.1 hleaf
  refine ⟨fun hrich => not_occurs_of_not_richText hrich leaf.text, leaf.text,
    (assigned_sublist fieldName value).mem hmem, ?_⟩
  rw [Leaf.sanitize, sanitizeText_eq]
  exact removeEach_breaks (patterns_standalone leaf.fieldName) leaf.text

end Ris.XssSanitize
