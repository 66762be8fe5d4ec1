import RpiHealth.Library.Text

/-! A compact JSON writer and the exact length of what it writes. -/
namespace Json

inductive Value where
  | null
  | bool (b : Bool)
  /-- A number, already formatted. -/
  | number (text : String)
  | string (s : String)
  | array (items : List Value)
  | object (fields : List (String × Value))

def hexDigit (n : Nat) : Char :=
  if n < 10 then Char.ofNat (48 + n) else Char.ofNat (87 + n)

/-- Characters that a string may not hold as they are. -/
def escape (c : Char) : List Char :=
  if c = '"' then ['\\', '"']
  else if c = '\\' then ['\\', '\\']
  else if c.toNat = 8 then ['\\', 'b']
  else if c.toNat = 9 then ['\\', 't']
  else if c.toNat = 10 then ['\\', 'n']
  else if c.toNat = 12 then ['\\', 'f']
  else if c.toNat = 13 then ['\\', 'r']
  else if c.toNat < 32 then ['\\', 'u', '0', '0', hexDigit (c.toNat / 16), hexDigit (c.toNat % 16)]
  else [c]

def escaped (s : String) : String := String.ofList (s.toList.flatMap escape)

def quote (s : String) : String := "\"" ++ escaped s ++ "\""

def natural (n : Nat) : Value := .number (toString n)

/-- A field that is left out when there is nothing to write. -/
def optional (key : String) : Option Value → List (String × Value)
  | none => []
  | some v => [(key, v)]

mutual

def Value.render : Value → String
  | .null => "null"
  | .bool true => "true"
  | .bool false => "false"
  | .number text => text
  | .string s => quote s
  | .array items => "[" ++ ",".intercalate (renderItems items) ++ "]"
  | .object fields => "\x7b" ++ ",".intercalate (renderFields fields) ++ "\x7d"

def renderItems : List Value → List String
  | [] => []
  | v :: rest => v.render :: renderItems rest

def renderFields : List (String × Value) → List String
  | [] => []
  | (key, v) :: rest => (quote key ++ ":" ++ v.render) :: renderFields rest

end

def Value.field? (key : String) : Value → Option Value
  | .object fields => fields.lookup key
  | _ => none

/-! Maps that are written in the order of their keys. -/

def insertKey {A : Type u} (key : String) (a : A) : List (String × A) → List (String × A)
  | [] => [(key, a)]
  | (k, b) :: rest =>
    if key = k then (key, a) :: rest
    else if key < k then (key, a) :: (k, b) :: rest
    else (k, b) :: insertKey key a rest

def collect {A : Type u} (pairs : List (String × A)) : List (String × A) :=
  pairs.foldl (fun map p => insertKey p.1 p.2 map) []

theorem insertKey_perm {A : Type u} (key : String) (a : A) (map : List (String × A))
    (fresh : key ∉ map.map Prod.fst) : (insertKey key a map).Perm ((key, a) :: map) := by
  induction map with
  | nil => exact List.Perm.refl _
  | cons p rest ih =>
    obtain ⟨k, b⟩ := p
    simp only [List.map_cons, List.mem_cons, not_or] at fresh
    simp only [insertKey, fresh.1, if_false]
    split
    · exact List.Perm.refl _
    · exact ((ih fresh.2).cons (k, b)).trans (List.Perm.swap (key, a) (k, b) rest)

/-- Collecting pairs with different keys only reorders them. -/
theorem collect_perm {A : Type u} (pairs : List (String × A))
    (distinct : (pairs.map Prod.fst).Nodup) : (collect pairs).Perm pairs := by
  suffices general : ∀ (pairs map : List (String × A)),
      ((pairs.map Prod.fst) ++ (map.map Prod.fst)).Nodup →
      (pairs.foldl (fun map p => insertKey p.1 p.2 map) map).Perm (pairs ++ map) by
    simpa [collect] using general pairs [] (by simpa using distinct)
  intro pairs
  induction pairs with
  | nil => exact fun map _ => List.Perm.refl _
  | cons p rest ih =>
    intro map distinct
    simp only [List.map_cons, List.cons_append, List.nodup_cons, List.mem_append, not_or]
      at distinct
    have inserted := insertKey_perm p.1 p.2 map distinct.1.2
    have moved : (rest ++ insertKey p.1 p.2 map).Perm (p :: rest ++ map) :=
      (inserted.append_left rest).trans List.perm_middle
    refine (ih (insertKey p.1 p.2 map) ?_).trans moved
    have keys : (rest.map Prod.fst ++ (insertKey p.1 p.2 map).map Prod.fst).Perm
        (p.1 :: (rest.map Prod.fst ++ map.map Prod.fst)) :=
      ((inserted.map Prod.fst).append_left _).trans List.perm_middle
    rw [keys.nodup_iff, List.nodup_cons, List.mem_append, not_or]
    exact distinct

/-! Lengths. -/

/-- What a byte of a string takes in the written text. -/
def escapedByteSize (b : UInt8) : Nat :=
  if b = 34 ∨ b = 92 ∨ b = 8 ∨ b = 9 ∨ b = 10 ∨ b = 12 ∨ b = 13 then 2
  else if b < 32 then 6
  else 1

def escapedSize (s : String) : Nat := (s.toUTF8.data.toList.map escapedByteSize).sum

/-- Items between brackets, separated by commas. -/
def enclosed (sizes : List Nat) : Nat := 1 + max 1 (sizes.map (· + 1)).sum

mutual

def Value.size : Value → Nat
  | .null => 4
  | .bool true => 4
  | .bool false => 5
  | .number text => Text.size text
  | .string s => escapedSize s + 2
  | .array items => enclosed (sizeItems items)
  | .object fields => enclosed (sizeFields fields)

def sizeItems : List Value → List Nat
  | [] => []
  | v :: rest => v.size :: sizeItems rest

def sizeFields : List (String × Value) → List Nat
  | [] => []
  | (key, v) :: rest => (escapedSize key + 3 + v.size) :: sizeFields rest

end

theorem escapedByteSize_high (b : UInt8) (high : 128 ≤ b.toNat) : escapedByteSize b = 1 := by
  have all : ∀ n < 256, 128 ≤ n → escapedByteSize (UInt8.ofNat n) = 1 := by decide +kernel
  have here := all b.toNat (UInt8.toNat_lt b) high
  rwa [UInt8.ofNat_toNat] at here

theorem escape_high (c : Char) (high : 128 ≤ c.toNat) : escape c = [c] := by
  have quote : c ≠ '"' := by
    rintro rfl
    simp at high
  have slash : c ≠ '\\' := by
    rintro rfl
    simp at high
  simp only [escape, quote, slash, if_false]
  repeat rw [if_neg (by omega)]

theorem sum_plain (bs : List UInt8) (plain : ∀ b ∈ bs, escapedByteSize b = 1) :
    (bs.map escapedByteSize).sum = bs.length := by
  induction bs with
  | nil => rfl
  | cons b rest ih =>
    have here := plain b (by simp)
    have later := ih (fun a member => plain a (by simp [member]))
    simp only [List.map_cons, List.sum_cons, List.length_cons]
    omega

/-- No byte of a character beyond ASCII is special. -/
theorem escaped_high (c : Char) (high : 128 ≤ c.toNat) :
    ((String.utf8EncodeChar c).map escapedByteSize).sum = c.utf8Size := by
  rw [← String.length_utf8EncodeChar]
  apply sum_plain
  intro b member
  exact escapedByteSize_high b (Text.encode_high c high b member)

theorem escaped_char (c : Char) :
    ((String.utf8EncodeChar c).map escapedByteSize).sum = ((escape c).map Char.utf8Size).sum := by
  by_cases ascii : c.toNat < 128
  · have all : ∀ n < 128, ((String.utf8EncodeChar (Char.ofNat n)).map escapedByteSize).sum =
        ((escape (Char.ofNat n)).map Char.utf8Size).sum := by decide +kernel
    simpa using all c.toNat ascii
  · have high : 128 ≤ c.toNat := by omega
    rw [escaped_high c high, escape_high c high]
    simp

/-- The bytes of the text decide how long it is when it is escaped. -/
theorem size_escaped (s : String) : Text.size (escaped s) = escapedSize s := by
  obtain ⟨cs, rfl⟩ := s.exists_eq_ofList
  rw [escaped, Text.size_ofList, escapedSize, Text.bytes_ofList, String.toList_ofList]
  induction cs with
  | nil => rfl
  | cons c rest ih =>
    simp only [List.flatMap_cons, List.map_append, List.sum_append, escaped_char, ih]

@[simp] theorem size_quote (s : String) : Text.size (quote s) = escapedSize s + 2 := by
  have mark : Text.size "\"" = 1 := by decide
  simp only [quote, Text.size_append, mark, size_escaped]
  omega

/-- The writer's separators and brackets. -/
theorem size_intercalate (items : List String) :
    Text.size (",".intercalate items) + 2 = enclosed (items.map Text.size) := by
  suffices general : ∀ (first : String) (rest : List String),
      Text.size (",".intercalate (first :: rest)) + 1 =
        (((first :: rest).map Text.size).map (· + 1)).sum by
    cases items with
    | nil => rfl
    | cons first rest =>
      have := general first rest
      simp only [enclosed]
      simp only [List.map_cons, List.sum_cons] at this ⊢
      omega
  intro first rest
  induction rest generalizing first with
  | nil => simp [String.intercalate_singleton]
  | cons second rest ih =>
    have comma : Text.size "," = 1 := by decide
    have := ih second
    rw [String.intercalate_cons_cons]
    simp only [Text.size_append, comma, List.map_cons, List.sum_cons] at this ⊢
    omega

theorem size_brackets (left right : String) (items : List String)
    (one : Text.size left = 1) (other : Text.size right = 1) :
    Text.size (left ++ ",".intercalate items ++ right) = enclosed (items.map Text.size) := by
  rw [Text.size_append, Text.size_append, one, other, ← size_intercalate]
  omega

mutual

/-- The length of what is written, without writing it. -/
theorem size_render : (v : Value) → Text.size v.render = v.size
  | .null | .bool true | .bool false => by decide
  | .number text => rfl
  | .string s => by simp only [Value.render, size_quote, Value.size]
  | .array items => by
    simp only [Value.render, Value.size]
    rw [size_brackets "[" "]" _ (by decide) (by decide), size_renderItems]
  | .object fields => by
    simp only [Value.render, Value.size]
    rw [size_brackets "\x7b" "\x7d" _ (by decide) (by decide), size_renderFields]

theorem size_renderItems : (items : List Value) →
    (renderItems items).map Text.size = sizeItems items
  | [] => rfl
  | v :: rest => by
    simp only [renderItems, sizeItems, List.map_cons, size_render v, size_renderItems rest]

theorem size_renderFields : (fields : List (String × Value)) →
    (renderFields fields).map Text.size = sizeFields fields
  | [] => rfl
  | (key, v) :: rest => by
    have colon : Text.size ":" = 1 := by decide
    simp only [renderFields, sizeFields, List.map_cons, Text.size_append, size_quote, colon,
      size_render v, size_renderFields rest]

end

theorem sizeFields_eq (fields : List (String × Value)) :
    sizeFields fields = fields.map (fun f => escapedSize f.1 + 3 + f.2.size) := by
  induction fields with
  | nil => rfl
  | cons f rest ih => simp only [sizeFields, List.map_cons, ih]

@[simp] theorem escapedSize_append (s t : String) :
    escapedSize (s ++ t) = escapedSize s + escapedSize t := by
  simp [escapedSize]

/-- Text without special characters is written as it is. -/
theorem escapedSize_plain (s : String) (plain : ∀ c ∈ s.toList, escape c = [c]) :
    escapedSize s = Text.size s := by
  have same : ∀ cs : List Char, (∀ c ∈ cs, escape c = [c]) → cs.flatMap escape = cs := by
    intro cs plain
    induction cs with
    | nil => rfl
    | cons c rest ih =>
      rw [List.flatMap_cons, plain c (by simp), ih (fun d member => plain d (by simp [member]))]
      rfl
  rw [← size_escaped, escaped, same _ plain, String.ofList_toList]

end Json
