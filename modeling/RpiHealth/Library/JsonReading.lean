import RpiHealth.Library.Json
import RpiHealth.Library.Printing

/-! A reader for the texts of the JSON writer, which leaves no blanks between tokens. What was
written is read back as it was, so that no two values are written alike. -/
namespace Json

def hexValue (c : Char) : Option Nat :=
  if '0' ≤ c ∧ c ≤ '9' then some (c.toNat - 48)
  else if 'a' ≤ c ∧ c ≤ 'f' then some (c.toNat - 87)
  else if 'A' ≤ c ∧ c ≤ 'F' then some (c.toNat - 55)
  else none

/-- The character with a number, if there is one. -/
def scalar (n : Nat) : Option Char := if n.isValidChar then some (Char.ofNat n) else none

def shortEscape (c : Char) : Option Char :=
  [('"', '"'), ('\\', '\\'), ('/', '/'), ('b', Char.ofNat 8), ('t', Char.ofNat 9),
    ('n', Char.ofNat 10), ('f', Char.ofNat 12), ('r', Char.ofNat 13)].lookup c

/-- What follows a backslash. Halves of a surrogate pair stand for nothing. -/
def readEscape : List Char → Option (Char × List Char)
  | 'u' :: a :: b :: c :: d :: rest => do
    let character ← scalar (4096 * (← hexValue a) + 256 * (← hexValue b) + 16 * (← hexValue c) +
      (← hexValue d))
    some (character, rest)
  | c :: rest => (shortEscape c).map (fun character => (character, rest))
  | [] => none

def readCharacter : List Char → Option (Char × List Char)
  | [] => none
  | c :: rest =>
    if c = '\\' then readEscape rest
    else if c = '"' ∨ c.toNat < 32 then none
    else some (c, rest)

/-- A string behind its opening quote. -/
def readString : Nat → List Char → Option (List Char × List Char)
  | 0, _ => none
  | fuel + 1, cs =>
    if cs.head? = some '"' then some ([], cs.tail)
    else (readCharacter cs).bind (fun first =>
      (readString fuel first.2).map (fun later => (first.1 :: later.1, later.2)))

def isNumeral (c : Char) : Bool := c.isDigit || ['-', '+', '.', 'e', 'E'].contains c

def readNumber (cs : List Char) : Value × List Char :=
  (.number (String.ofList (cs.takeWhile isNumeral)), cs.dropWhile isNumeral)

def readWord (cs : List Char) : Option (Value × List Char) :=
  if ['n', 'u', 'l', 'l'].isPrefixOf cs then some (.null, cs.drop 4)
  else if ['t', 'r', 'u', 'e'].isPrefixOf cs then some (.bool true, cs.drop 4)
  else if ['f', 'a', 'l', 's', 'e'].isPrefixOf cs then some (.bool false, cs.drop 5)
  else none

mutual

def readValue : Nat → List Char → Option (Value × List Char)
  | 0, _ => none
  | fuel + 1, cs =>
    if cs.head? = some '"' then
      (readString fuel cs.tail).map (fun read => (.string (String.ofList read.1), read.2))
    else if cs.head? = some '[' then
      if cs.tail.head? = some ']' then some (.array [], cs.tail.tail)
      else (readItems fuel cs.tail).map (fun read => (.array read.1, read.2))
    else if cs.head? = some '\x7b' then
      if cs.tail.head? = some '\x7d' then some (.object [], cs.tail.tail)
      else (readFields fuel cs.tail).map (fun read => (.object read.1, read.2))
    else if cs.head?.any isNumeral then some (readNumber cs)
    else readWord cs

/-- The items behind an opening bracket, of which there is one at least. -/
def readItems : Nat → List Char → Option (List Value × List Char)
  | 0, _ => none
  | fuel + 1, cs =>
    (readValue fuel cs).bind (fun first =>
      if first.2.head? = some ',' then
        (readItems fuel first.2.tail).map (fun later => (first.1 :: later.1, later.2))
      else if first.2.head? = some ']' then some ([first.1], first.2.tail)
      else none)

def readFields : Nat → List Char → Option (List (String × Value) × List Char)
  | 0, _ => none
  | fuel + 1, cs =>
    if cs.head? = some '"' then
      (readString fuel cs.tail).bind (fun key =>
        if key.2.head? = some ':' then
          (readValue fuel key.2.tail).bind (fun first =>
            if first.2.head? = some ',' then
              (readFields fuel first.2.tail).map (fun later =>
                ((String.ofList key.1, first.1) :: later.1, later.2))
            else if first.2.head? = some '\x7d' then
              some ([(String.ofList key.1, first.1)], first.2.tail)
            else none)
        else none)
    else none

end

/-- A whole text. Every token takes a character at least. -/
def read (text : String) : Option Value :=
  match readValue (text.toList.length + 1) text.toList with
  | some (v, []) => some v
  | _ => none

mutual

/-- Numbers are formatted with the characters of numbers. -/
def Value.numbered : Value → Bool
  | .number text => !text.toList.isEmpty && text.toList.all isNumeral
  | .array items => numberedItems items
  | .object fields => numberedFields fields
  | .null | .bool _ | .string _ => true

def numberedItems : List Value → Bool
  | [] => true
  | v :: rest => v.numbered && numberedItems rest

def numberedFields : List (String × Value) → Bool
  | [] => true
  | (_, v) :: rest => v.numbered && numberedFields rest

end

theorem numberedItems_eq (items : List Value) : numberedItems items = items.all Value.numbered := by
  induction items with
  | nil => rfl
  | cons v rest ih => rw [numberedItems, ih, List.all_cons]

theorem numberedFields_eq (fields : List (String × Value)) :
    numberedFields fields = fields.all (fun f => f.2.numbered) := by
  induction fields with
  | nil => rfl
  | cons f rest ih => rw [numberedFields, ih, List.all_cons]

/-! Strings. -/

theorem hexValue_hexDigit : ∀ n < 16, hexValue (hexDigit n) = some n := by decide

theorem scalar_toNat (c : Char) : scalar c.toNat = some c := by
  have valid : c.toNat.isValidChar := c.valid
  rw [scalar, if_pos valid, Char.ofNat_toNat]

theorem readCharacter_escape (c : Char) (rest : List Char) :
    readCharacter (escape c ++ rest) = some (c, rest) := by
  have named (n : Nat) (same : c.toNat = n) : c = Char.ofNat n := by
    rw [← same, Char.ofNat_toNat]
  unfold escape
  split
  · rename_i quote
    rw [quote]
    rfl
  split
  · rename_i backslash
    rw [backslash]
    rfl
  split
  · rename_i backspace
    rw [named 8 backspace]
    rfl
  split
  · rename_i tab
    rw [named 9 tab]
    rfl
  split
  · rename_i newline
    rw [named 10 newline]
    rfl
  split
  · rename_i feed
    rw [named 12 feed]
    rfl
  split
  · rename_i return_
    rw [named 13 return_]
    rfl
  split
  · rename_i control
    have high := hexValue_hexDigit (c.toNat / 16) (by omega)
    have low := hexValue_hexDigit (c.toNat % 16) (by omega)
    have zero : hexValue '0' = some 0 := by decide
    have whole : 4096 * 0 + 256 * 0 + 16 * (c.toNat / 16) + c.toNat % 16 = c.toNat := by omega
    simp only [List.cons_append, List.nil_append, readCharacter, if_true, readEscape, zero, high,
      low, Option.bind_eq_bind, Option.bind_some, whole, scalar_toNat]
  · rename_i quote backslash _ _ _ _ _ printed
    simp [readCharacter, quote, backslash, printed]

theorem escape_head (c : Char) (rest : List Char) : (escape c ++ rest).head? ≠ some '"' := by
  intro quoted
  have read := readCharacter_escape c rest
  cases written : escape c ++ rest with
  | nil => simp [written] at quoted
  | cons d more =>
    rw [written, List.head?_cons, Option.some.injEq] at quoted
    rw [written, quoted, readCharacter] at read
    simp at read

theorem readString_escape (cs rest : List Char) (fuel : Nat) (enough : cs.length < fuel) :
    readString fuel (cs.flatMap escape ++ '"' :: rest) = some (cs, rest) := by
  induction cs generalizing fuel with
  | nil =>
    obtain ⟨n, rfl⟩ : ∃ n, fuel = n + 1 := ⟨fuel - 1, by simp at enough; omega⟩
    simp [readString]
  | cons c more ih =>
    obtain ⟨n, rfl⟩ : ∃ n, fuel = n + 1 := ⟨fuel - 1, by simp at enough; omega⟩
    rw [List.flatMap_cons, List.append_assoc, readString, if_neg (escape_head c _),
      readCharacter_escape, Option.bind_some, ih n (by simpa using enough)]
    rfl

/-! Values. -/

/-- Where a number cannot go on. -/
def Ends (rest : List Char) : Prop := rest.head?.any isNumeral = false

theorem quote_toList (s : String) :
    (quote s).toList = '"' :: (s.toList.flatMap escape ++ ['"']) := by
  simp [quote, escaped]

theorem escape_length (c : Char) : 1 ≤ (escape c).length := by
  unfold escape
  repeat' split
  all_goals simp

theorem escaped_length (cs : List Char) : cs.length ≤ (cs.flatMap escape).length := by
  induction cs with
  | nil => simp
  | cons c rest ih =>
    have first := escape_length c
    simp only [List.flatMap_cons, List.length_cons, List.length_append]
    omega

theorem quote_head (s : String) (rest : List Char) :
    ((quote s).toList ++ rest).head? = some '"' := by
  simp [quote_toList]

theorem quote_tail (s : String) (rest : List Char) :
    ((quote s).toList ++ rest).tail = (quote s).toList.tail ++ rest := by
  simp [quote_toList]

theorem readString_quote (s : String) (rest : List Char) (fuel : Nat)
    (enough : (quote s).toList.length ≤ fuel) :
    readString fuel ((quote s).toList.tail ++ rest) = some (s.toList, rest) := by
  rw [quote_toList] at enough ⊢
  have length := escaped_length s.toList
  simp only [List.length_cons, List.length_append, List.length_nil] at enough
  rw [List.tail_cons, List.append_assoc, List.singleton_append]
  exact readString_escape s.toList rest fuel (by omega)

/-- A number is taken up to its end. -/
theorem readNumber_ends (text rest : List Char) (spelled : text.all isNumeral = true)
    (ends : Ends rest) : readNumber (text ++ rest) = (.number (String.ofList text), rest) := by
  have front : (text ++ rest).takeWhile isNumeral = text ∧
      (text ++ rest).dropWhile isNumeral = rest := by
    rw [List.takeWhile_append_of_pos (List.all_eq_true.mp spelled),
      List.dropWhile_append_of_pos (List.all_eq_true.mp spelled)]
    cases rest with
    | nil => simp
    | cons c more =>
      have stop : isNumeral c = false := by simpa [Ends] using ends
      simp [stop]
  rw [readNumber, front.1, front.2]

/-- The items of an array as they are written between its brackets. -/
def joined (items : List String) : List Char := (",".intercalate items).toList

theorem joined_one (item : String) : joined [item] = item.toList := by
  simp [joined]

theorem joined_more (first : String) (rest : List String) (filled : rest ≠ []) :
    joined (first :: rest) = first.toList ++ ',' :: joined rest := by
  cases rest with
  | nil => contradiction
  | cons second rest => simp [joined, String.intercalate_cons_cons]

theorem renderItems_filled (v : Value) (more : List Value) : renderItems (v :: more) ≠ [] := by
  simp [renderItems]

theorem renderFields_filled (fields : List (String × Value)) (filled : fields ≠ []) :
    renderFields fields ≠ [] := by
  cases fields with
  | nil => contradiction
  | cons f more => simp [renderFields]

theorem array_toList (items : List Value) :
    (Value.array items).render.toList = '[' :: (joined (renderItems items) ++ [']']) := by
  simp [Value.render, joined]

theorem object_toList (fields : List (String × Value)) :
    (Value.object fields).render.toList = '\x7b' :: (joined (renderFields fields) ++ ['\x7d']) := by
  simp [Value.render, joined]

theorem render_head (v : Value) (numbered : v.numbered = true) :
    ∃ c cs, v.render.toList = c :: cs ∧ c ≠ ']' := by
  cases v with
  | null => exact ⟨'n', _, rfl, by decide⟩
  | bool b => cases b <;> exact ⟨_, _, rfl, by decide⟩
  | string s => exact ⟨'"', _, quote_toList s, by decide⟩
  | array items => exact ⟨'[', _, array_toList items, by decide⟩
  | object fields => exact ⟨'\x7b', _, object_toList fields, by decide⟩
  | number text =>
    simp only [Value.numbered, Bool.and_eq_true, Bool.not_eq_true'] at numbered
    cases spelled : text.toList with
    | nil => simp [spelled] at numbered
    | cons c cs =>
      refine ⟨c, cs, spelled, ?_⟩
      rintro rfl
      rw [spelled] at numbered
      revert numbered
      simp [isNumeral]

theorem ends_cons (c : Char) (rest : List Char) (stop : isNumeral c = false) : Ends (c :: rest) := by
  simp [Ends, stop]

theorem field_toList (key : String) (v : Value) : (quote key ++ ":" ++ v.render).toList =
    (quote key).toList ++ ':' :: v.render.toList := by
  simp

theorem fields_head (key : String) (v : Value) (more : List (String × Value)) :
    ∃ cs, joined (renderFields ((key, v) :: more)) = '"' :: cs := by
  cases more with
  | nil =>
    rw [renderFields, renderFields, joined_one, field_toList, quote_toList]
    exact ⟨_, rfl⟩
  | cons next more =>
    rw [renderFields, joined_more _ _ (renderFields_filled _ (List.cons_ne_nil next more)),
      field_toList, quote_toList]
    exact ⟨_, rfl⟩

/-- The last field of an object, whose value can be read. -/
theorem readFields_last (key : String) (v : Value) (fuel : Nat) (rest : List Char)
    (enough : (quote key).toList.length ≤ fuel)
    (value : readValue fuel (v.render.toList ++ '\x7d' :: rest) = some (v, '\x7d' :: rest)) :
    readFields (fuel + 1) ((quote key ++ ":" ++ v.render).toList ++ '\x7d' :: rest) =
      some ([(key, v)], rest) := by
  rw [field_toList, List.append_assoc, List.cons_append, readFields, if_pos (quote_head key _),
    quote_tail, readString_quote key _ fuel enough, Option.bind_some]
  simp [value]

theorem readFields_more (key : String) (v : Value) (fuel : Nat) (more : List (String × Value))
    (text rest : List Char) (enough : (quote key).toList.length ≤ fuel)
    (value : readValue fuel (v.render.toList ++ ',' :: text) = some (v, ',' :: text))
    (later : readFields fuel text = some (more, rest)) :
    readFields (fuel + 1) ((quote key ++ ":" ++ v.render).toList ++ ',' :: text) =
      some ((key, v) :: more, rest) := by
  rw [field_toList, List.append_assoc, List.cons_append, readFields, if_pos (quote_head key _),
    quote_tail, readString_quote key _ fuel enough, Option.bind_some]
  simp [value, later]

mutual

/-- What was written is read back, with enough fuel and where a number could end. -/
theorem readValue_render : (v : Value) → v.numbered = true → ∀ fuel rest,
    v.render.toList.length < fuel → Ends rest →
    readValue fuel (v.render.toList ++ rest) = some (v, rest)
  | .null, _, fuel + 1, rest, _, _ => by
    simp [Value.render, readValue, readWord, isNumeral]
  | .bool true, _, fuel + 1, rest, _, _ => by
    simp [Value.render, readValue, readWord, isNumeral]
  | .bool false, _, fuel + 1, rest, _, _ => by
    simp [Value.render, readValue, readWord, isNumeral]
  | .number text, numbered, fuel + 1, rest, _, ends => by
    simp only [Value.numbered, Bool.and_eq_true, Bool.not_eq_true'] at numbered
    obtain ⟨c, cs, spelled⟩ : ∃ c cs, text.toList = c :: cs := by
      cases spelled : text.toList with
      | nil => simp [spelled] at numbered
      | cons c cs => exact ⟨c, cs, rfl⟩
    have numeral : isNumeral c = true := by
      have all := numbered.2
      rw [spelled, List.all_cons, Bool.and_eq_true] at all
      exact all.1
    have plain : c ≠ '"' ∧ c ≠ '[' ∧ c ≠ '\x7b' := by
      refine ⟨?_, ?_, ?_⟩ <;> rintro rfl <;> simp [isNumeral] at numeral
    have whole := readNumber_ends text.toList rest numbered.2 ends
    rw [String.ofList_toList] at whole
    simp only [Value.render, readValue, whole]
    simp [spelled, plain, numeral]
  | .string s, _, fuel + 1, rest, enough, _ => by
    simp only [Value.render] at enough ⊢
    rw [readValue, if_pos (quote_head s rest), quote_tail, readString_quote s rest fuel (by omega),
      Option.map_some, String.ofList_toList]
  | .array [], _, fuel + 1, rest, _, _ => by
    simp [Value.render, renderItems, readValue]
  | .array (v :: more), numbered, fuel + 1, rest, enough, _ => by
    obtain ⟨c, cs, first, open_⟩ : ∃ c cs, joined (renderItems (v :: more)) = c :: cs ∧ c ≠ ']' := by
      simp only [Value.numbered, numberedItems, Bool.and_eq_true] at numbered
      obtain ⟨c, cs, first, other⟩ := render_head v numbered.1
      cases more with
      | nil => exact ⟨c, cs, by rw [renderItems, renderItems, joined_one, first], other⟩
      | cons w more =>
        exact ⟨c, _, by
          rw [renderItems, joined_more _ _ (renderItems_filled w more), first, List.cons_append],
          other⟩
    rw [array_toList] at enough ⊢
    have items := readItems_render (v :: more) (by simp) numbered fuel rest (by
      simp only [List.length_cons, List.length_append, List.length_nil] at enough
      omega)
    rw [first] at items
    simp only [readValue, first]
    simpa [open_] using items
  | .object [], _, fuel + 1, rest, _, _ => by
    simp [Value.render, renderFields, readValue]
  | .object ((key, v) :: more), numbered, fuel + 1, rest, enough, _ => by
    obtain ⟨cs, first⟩ := fields_head key v more
    rw [object_toList] at enough ⊢
    have fields := readFields_render ((key, v) :: more) (by simp) numbered fuel rest (by
      simp only [List.length_cons, List.length_append, List.length_nil] at enough
      omega)
    rw [first] at fields
    simp only [readValue, first]
    simpa using fields

theorem readItems_render : (items : List Value) → items ≠ [] → numberedItems items = true →
    ∀ fuel rest, (joined (renderItems items)).length + 1 < fuel →
    readItems fuel (joined (renderItems items) ++ ']' :: rest) = some (items, rest)
  | [], filled, _, _, _, _ => absurd rfl filled
  | [v], _, numbered, fuel + 1, rest, enough => by
    simp only [numberedItems, Bool.and_true] at numbered
    rw [renderItems, renderItems, joined_one] at enough ⊢
    rw [readItems, readValue_render v numbered fuel _ (by omega) (ends_cons _ _ (by decide))]
    simp
  | v :: w :: more, _, numbered, fuel + 1, rest, enough => by
    rw [numberedItems, Bool.and_eq_true] at numbered
    rw [renderItems, joined_more _ _ (renderItems_filled w more)] at enough ⊢
    simp only [List.length_append, List.length_cons] at enough
    have later := readItems_render (w :: more) (by simp) numbered.2 fuel rest (by omega)
    rw [List.append_assoc, List.cons_append, readItems,
      readValue_render v numbered.1 fuel _ (by omega) (ends_cons _ _ (by decide))]
    simp [later]

theorem readFields_render : (fields : List (String × Value)) → fields ≠ [] →
    numberedFields fields = true → ∀ fuel rest, (joined (renderFields fields)).length + 1 < fuel →
    readFields fuel (joined (renderFields fields) ++ '\x7d' :: rest) = some (fields, rest)
  | [], filled, _, _, _, _ => absurd rfl filled
  | (key, v) :: more, _, numbered, fuel + 1, rest, enough => by
    rw [numberedFields, Bool.and_eq_true] at numbered
    by_cases filled : more = []
    · subst filled
      rw [renderFields, renderFields, joined_one] at enough ⊢
      have length := enough
      simp only [field_toList, List.length_append, List.length_cons] at length
      exact readFields_last key v fuel rest (by omega) (readValue_render v numbered.1 fuel _
        (by omega) (ends_cons _ _ (by decide)))
    · rw [renderFields, joined_more _ _ (renderFields_filled more filled)] at enough ⊢
      have length := enough
      simp only [field_toList, List.length_append, List.length_cons] at length
      rw [List.append_assoc, List.cons_append]
      exact readFields_more key v fuel more _ rest (by omega) (readValue_render v numbered.1 fuel _
        (by omega) (ends_cons _ _ (by decide)))
        (readFields_render more filled numbered.2 fuel rest (by omega))

end

/-- A text is read as what it was written from, whose numbers are the only ones there are. -/
theorem read_render (v : Value) (numbered : v.numbered = true) : read v.render = some v := by
  have whole := readValue_render v numbered (v.render.toList.length + 1) [] (Nat.lt_succ_self _) rfl
  rw [List.append_nil] at whole
  rw [read, whole]

theorem natural_numbered (n : Nat) : (natural n).numbered = true := by
  have digits : ∀ c ∈ (toString n).toList, isNumeral c = true := by
    intro c member
    have digit : c.isDigit = true := Text.toString_digits n c member
    simp [isNumeral, digit]
  simp only [natural, Value.numbered, Bool.and_eq_true, List.all_eq_true]
  exact ⟨by simp, digits⟩

/-- Looking a key up finds the one field that has it. -/
theorem field?_object (fields : List (String × Value)) (distinct : (fields.map Prod.fst).Nodup)
    (key : String) (v : Value) : (Value.object fields).field? key = some v ↔ (key, v) ∈ fields := by
  change fields.lookup key = some v ↔ _
  induction fields with
  | nil => simp
  | cons f rest ih =>
    obtain ⟨k, w⟩ := f
    rw [List.map_cons, List.nodup_cons] at distinct
    by_cases same : key = k
    · subst same
      have fresh : (key, v) ∉ rest := fun member =>
        distinct.1 (List.mem_map.mpr ⟨(key, v), member, rfl⟩)
      simp [fresh, eq_comm]
    · have other : (key == k) = false := by simpa using same
      simp [List.lookup_cons, other, ih distinct.2, same]

theorem numberedFields_append (first second : List (String × Value)) :
    numberedFields (first ++ second) = (numberedFields first && numberedFields second) := by
  simp only [numberedFields_eq, List.all_append]

theorem optional_numbered (key : String) (value : Option Value)
    (numbered : ∀ v, value = some v → v.numbered = true) :
    numberedFields (optional key value) = true := by
  cases value with
  | none => rfl
  | some v => simp [optional, numberedFields, numbered v rfl]

end Json
