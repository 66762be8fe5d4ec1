import RpiHealth.Library.Debug

/-! Self-describing data with positions, and typed reading of it by visitors that
accept what they can build from and refuse the rest. The first value refused ends
the reading with an error that says what was found and what was expected. -/
namespace Serde

inductive Node where
  | string (start : Nat) (s : String)
  /-- An integer of at most 128 bits. -/
  | integer (start : Nat) (n : Int)
  /-- A number, as it is shown. -/
  | float (start : Nat) (shown : String)
  | boolean (start : Nat) (b : Bool)
  | datetime (start : Nat) (shown : String)
  | array (start : Nat) (items : List Node)
  /-- Each entry has its key, the key's position and its value. -/
  | table (start : Nat) (entries : List (String × Nat × Node))

inductive Unexpected where
  | string (s : String)
  | integer (n : Int)
  | float (shown : String)
  | boolean (b : Bool)
  | sequence
  | map
  deriving DecidableEq, Repr

inductive Kind where
  | wrongType (found : Unexpected) (expected : String)
  | badValue (n : Int) (expected : String)
  | badLength (length : Nat) (expected : String)
  | unknownField (name : String) (known : List String)
  | missingField (name : String)
  | duplicateField (name : String)
  deriving DecidableEq, Repr

structure Error where
  kind : Kind
  /-- The way to the value: its position on each level. -/
  place : List Nat
  start : Option Nat
  deriving DecidableEq, Repr

/-- The integers that have a visit of their own. -/
def isShort (n : Int) : Bool := -2 ^ 63 ≤ n && n < 2 ^ 64

/-- The type that a wider integer is visited as. -/
def asWide (n : Int) : String :=
  if isShort n then "" else if n < 2 ^ 127 then " as i128" else " as u128"

def Unexpected.display (printable : Char → Bool) : Unexpected → String
  | .string s => "string " ++ Debug.quote printable s
  | .integer n => "integer `" ++ toString n ++ "`" ++ asWide n
  | .float shown => "floating point `" ++ shown ++ "`"
  | .boolean b => "boolean `" ++ toString b ++ "`"
  | .sequence => "sequence"
  | .map => "map"

def oneOf : List String → String
  | [] => "there are no fields"
  | [a] => "expected `" ++ a ++ "`"
  | [a, b] => "expected `" ++ a ++ "` or `" ++ b ++ "`"
  | names => "expected one of " ++ ", ".intercalate (names.map (fun name => "`" ++ name ++ "`"))

def Kind.message (printable : Char → Bool) : Kind → String
  | .wrongType found expected =>
    "invalid type: " ++ found.display printable ++ ", expected " ++ expected
  | .badValue n expected =>
    "invalid value: " ++ (Unexpected.integer n).display printable ++ ", expected " ++ expected
  | .badLength length expected =>
    "invalid length " ++ toString length ++ ", expected " ++ expected
  | .unknownField name known => "unknown field `" ++ name ++ "`, " ++ oneOf known
  | .missingField name => "missing field `" ++ name ++ "`"
  | .duplicateField name => "duplicate field `" ++ name ++ "`"

namespace Node

def start : Node → Nat
  | .string start _ | .integer start _ | .float start _ | .boolean start _ | .datetime start _
  | .array start _ | .table start _ => start

/-- A date is handed to a visitor as a map. -/
def unexpected : Node → Unexpected
  | .string _ s => .string s
  | .integer _ n => .integer n
  | .float _ shown => .float shown
  | .boolean _ b => .boolean b
  | .array _ _ => .sequence
  | .datetime _ _ | .table _ _ => .map

def children : Node → List Node
  | .array _ items => items
  | .table _ entries => entries.map (·.2.2)
  | _ => []

def at? (n : Node) : List Nat → Option Node
  | [] => some n
  | i :: rest => n.children[i]?.bind (fun child => child.at? rest)

end Node

namespace Error

def under (i : Nat) (e : Error) : Error := { e with place := i :: e.place }

/-- An error without a position gets that of the value around it. -/
def within (start : Nat) (e : Error) : Error := { e with start := e.start.orElse (fun _ => start) }

end Error

def refuse (n : Node) (expected : String) : Error :=
  ⟨.wrongType n.unexpected expected, [], some n.start⟩

def readString (expected : String) : Node → Except Error String
  | .string _ s => .ok s
  | n => .error (refuse n expected)

/-- An integer type of so many bits, at most 64. What is beyond its range is a bad value;
what is beyond 64 bits is of a wrong type. -/
def readUnsigned (bits : Nat) (expected : String) : Node → Except Error Nat
  | .integer start n =>
    if 0 ≤ n ∧ n < 2 ^ bits then .ok n.toNat
    else if isShort n then .error ⟨.badValue n expected, [], some start⟩
    else .error (refuse (.integer start n) expected)
  | n => .error (refuse n expected)

/-- A field of a record under construction. -/
structure Field (S : Type u) where
  name : String
  /-- A default stands in for the field. -/
  optional : Bool
  isSet : S → Bool
  set : Node → S → Except Error S

variable {S : Type u} {A : Type v}

/-- A map gives the fields by name, in any order and at most once. -/
def readEntries (fields : List (Field S)) : Nat → List (String × Nat × Node) → S → Except Error S
  | _, [], s => .ok s
  | i, (key, start, node) :: rest, s =>
    match fields.find? (fun f => f.name == key) with
    | none => .error ⟨.unknownField key (fields.map (·.name)), [], some start⟩
    | some f =>
      if f.isSet s then .error ⟨.duplicateField key, [], none⟩
      else
        match f.set node s with
        | .error e => .error (e.under i)
        | .ok s => readEntries fields (i + 1) rest s

/-- A sequence gives the fields in the order of their declaration. -/
def readItems (expected : String) : List (Field S) → Nat → List Node → S → Except Error S
  | [], _, _, s => .ok s
  | f :: fields, i, node :: rest, s =>
    match f.set node s with
    | .error e => .error (e.under i)
    | .ok s => readItems expected fields (i + 1) rest s
  | f :: fields, i, [], s =>
    if f.optional then readItems expected fields (i + 1) [] s
    else .error ⟨.badLength i expected, [], none⟩

def elements (name : String) (count : Nat) : String :=
  "struct " ++ name ++ " with " ++ toString count ++ (if count = 1 then " element" else " elements")

/-- The key under which a date presents itself as a map. -/
def DATETIME_KEY : String := "$__toml_private_datetime"

def readStruct (name : String) (fields : List (Field S)) (empty : S)
    (finish : S → Except Error A) : Node → Except Error A
  | .table start entries =>
    ((readEntries fields 0 entries empty).bind finish).mapError (Error.within start)
  | .array start items =>
    ((readItems (elements name fields.length) fields 0 items empty).bind finish).mapError
      (Error.within start)
  | .datetime start _ =>
    .error ⟨.unknownField DATETIME_KEY (fields.map (·.name)), [], some start⟩
  | n => .error (refuse n ("struct " ++ name))

/-- The value of a field that has to be there. -/
def required (name : String) : Option A → Except Error A
  | some a => .ok a
  | none => .error ⟨.missingField name, [], none⟩

/-- What an error shows of the data. -/
def Kind.found : Kind → Option Unexpected
  | .wrongType found _ => some found
  | .badValue n _ => some (.integer n)
  | _ => none

/-- The error shows what stands at its place. -/
def Explained (n : Node) (e : Error) : Prop :=
  ∀ found, e.kind.found = some found → ∃ m, n.at? e.place = some m ∧ m.unexpected = found

def Explains (read : Node → Except Error A) : Prop :=
  ∀ n e, read n = .error e → Explained n e

theorem explained_here (n : Node) (e : Error) (place : e.place = [])
    (found : e.kind.found = some n.unexpected) : Explained n e := by
  intro shown is
  rw [found] at is
  exact ⟨n, by rw [place]; rfl, Option.some.inj is⟩

theorem explains_string (expected : String) : Explains (readString expected) := by
  intro n e refused
  cases n <;> simp only [readString, reduceCtorEq, Except.error.injEq] at refused <;>
    exact refused ▸ explained_here _ _ rfl rfl

theorem explains_unsigned (bits : Nat) (expected : String) :
    Explains (readUnsigned bits expected) := by
  intro n e refused
  cases n with
  | integer start n =>
    simp only [readUnsigned] at refused
    split at refused
    · contradiction
    · split at refused <;> exact Except.error.inj refused ▸ explained_here _ _ rfl rfl
  | _ => exact Except.error.inj refused ▸ explained_here _ _ rfl rfl

/-- An error below a child is an error below its parent. -/
theorem explained_under (n child : Node) (i : Nat) (e : Error) (at_i : n.children[i]? = some child)
    (explained : Explained child e) : Explained n (e.under i) := by
  intro found is
  obtain ⟨m, here, same⟩ := explained found is
  refine ⟨m, ?_, same⟩
  simp only [Error.under, Node.at?, at_i, Option.bind_some]
  exact here

theorem explained_other (n : Node) (e : Error) (shows : e.kind.found = none) :
    Explained n e := by
  intro found is
  simp [shows] at is

theorem explained_required (n : Node) (name : String) (a : Option A) (e : Error)
    (missing : required name a = .error e) : Explained n e := by
  cases a with
  | none =>
    obtain rfl := Except.error.inj missing
    exact explained_other n _ rfl
  | some a => simp [required] at missing

/-- Two readings in a row. -/
theorem explained_bind {B : Type u} (n : Node) (first : Except Error A) (next : A → Except Error B)
    (start : ∀ e, first = .error e → Explained n e)
    (later : ∀ a e, next a = .error e → Explained n e) (e : Error)
    (refused : first.bind next = .error e) : Explained n e := by
  cases first with
  | error inner =>
    obtain rfl := Except.error.inj refused
    exact start inner rfl
  | ok a => exact later a e refused

theorem explained_within (n : Node) (start : Nat) (read : Except Error A)
    (explained : ∀ e, read = .error e → Explained n e) (e : Error)
    (refused : read.mapError (Error.within start) = .error e) : Explained n e := by
  cases read with
  | error inner => exact Except.error.inj refused ▸ explained inner rfl
  | ok a => simp [Except.mapError] at refused

section Fields

variable (fields : List (Field S))

theorem explained_entries (each : ∀ f ∈ fields, ∀ s, Explains (fun n => f.set n s)) (n : Node)
    (rest : List (String × Nat × Node)) (i : Nat)
    (remaining : n.children.drop i = rest.map (·.2.2)) (s : S) (e : Error)
    (refused : readEntries fields i rest s = .error e) : Explained n e := by
  induction rest generalizing i s with
  | nil => simp [readEntries] at refused
  | cons entry rest ih =>
    obtain ⟨key, start, node⟩ := entry
    have here : n.children[i]? = some node := by
      have head := congrArg List.head? remaining
      simpa [List.head?_drop] using head
    have later : n.children.drop (i + 1) = rest.map (·.2.2) := by
      have tail := congrArg List.tail remaining
      simpa [List.tail_drop] using tail
    simp only [readEntries] at refused
    split at refused
    · obtain rfl := Except.error.inj refused
      exact explained_other n _ rfl
    · rename_i f found
      split at refused
      · obtain rfl := Except.error.inj refused
        exact explained_other n _ rfl
      · split at refused
        · rename_i inner set
          obtain rfl := Except.error.inj refused
          exact explained_under n node i inner here
            (each f (List.mem_of_find?_eq_some found) s node inner set)
        · exact ih (i + 1) later _ refused

theorem explained_items (expected : String)
    (each : ∀ f ∈ fields, ∀ s, Explains (fun n => f.set n s)) (n : Node) (rest : List Node)
    (i : Nat) (remaining : n.children.drop i = rest) (s : S) (e : Error)
    (refused : readItems expected fields i rest s = .error e) : Explained n e := by
  induction fields generalizing i rest s with
  | nil => simp [readItems] at refused
  | cons f fields ih =>
    have others : ∀ g ∈ fields, ∀ s, Explains (fun n => g.set n s) :=
      fun g member => each g (by simp [member])
    cases rest with
    | nil =>
      simp only [readItems] at refused
      split at refused
      · refine ih others [] (i + 1) ?_ s refused
        have := List.drop_eq_nil_iff.mp remaining
        exact List.drop_eq_nil_iff.mpr (by omega)
      · obtain rfl := Except.error.inj refused
        exact explained_other n _ rfl
    | cons node rest =>
      have here : n.children[i]? = some node := by
        have head := congrArg List.head? remaining
        simpa [List.head?_drop] using head
      have later : n.children.drop (i + 1) = rest := by
        have tail := congrArg List.tail remaining
        simpa [List.tail_drop] using tail
      simp only [readItems] at refused
      split at refused
      · rename_i inner set
        obtain rfl := Except.error.inj refused
        exact explained_under n node i inner here (each f (by simp) s node inner set)
      · exact ih others rest (i + 1) later _ refused

/-- A derived visitor explains its errors if its fields do. -/
theorem explains_struct (name : String) (empty : S) (finish : S → Except Error A)
    (each : ∀ f ∈ fields, ∀ s, Explains (fun n => f.set n s))
    (finishes : ∀ n s e, finish s = .error e → Explained n e) :
    Explains (readStruct name fields empty finish) := by
  intro n e refused
  cases n with
  | table start entries =>
    refine explained_within _ start _ ?_ e refused
    refine explained_bind _ _ finish (fun inner read => ?_) (finishes _)
    exact explained_entries fields each (.table start entries) entries 0 rfl empty inner read
  | array start items =>
    refine explained_within _ start _ ?_ e refused
    refine explained_bind _ _ finish (fun inner read => ?_) (finishes _)
    exact explained_items fields _ each (.array start items) items 0 rfl empty inner read
  | datetime start shown => exact Except.error.inj refused ▸ explained_other _ _ rfl
  | _ => exact Except.error.inj refused ▸ explained_here _ _ rfl rfl

end Fields

/-- A field with a value of its own. -/
def field {B : Type v} (name : String) (optional : Bool) (get : S → Option B) (put : S → B → S)
    (read : Node → Except Error B) : Field S where
  name := name
  optional := optional
  isSet s := (get s).isSome
  set n s := (read n).map (put s)

theorem explains_field {B : Type v} (name : String) (optional : Bool) (get : S → Option B)
    (put : S → B → S) (read : Node → Except Error B) (explains : Explains read) (s : S) :
    Explains (fun n => (field name optional get put read).set n s) := by
  intro n e refused
  cases value : read n with
  | error inner =>
    simp only [field, value, Except.map, Except.error.injEq] at refused
    exact refused ▸ explains n inner value
  | ok b => simp [field, value, Except.map] at refused

/-! Data that agree in all but the contents of their texts. -/

def mask (s : String) : String := String.ofList (List.replicate (Text.size s) 'x')

mutual

/-- Every text is replaced by one of the same length. -/
def Node.masked : Node → Node
  | .string start s => .string start (mask s)
  | .array start items => .array start (maskedItems items)
  | .table start entries => .table start (maskedEntries entries)
  | .integer start n => .integer start n
  | .float start shown => .float start shown
  | .boolean start b => .boolean start b
  | .datetime start shown => .datetime start shown

def maskedItems : List Node → List Node
  | [] => []
  | n :: rest => n.masked :: maskedItems rest

def maskedEntries : List (String × Nat × Node) → List (String × Nat × Node)
  | [] => []
  | (key, start, n) :: rest => (key, start, n.masked) :: maskedEntries rest

end

theorem maskedItems_eq (items : List Node) : maskedItems items = items.map Node.masked := by
  induction items with
  | nil => rfl
  | cons n rest ih => simp only [maskedItems, List.map_cons, ih]

theorem maskedEntries_values (entries : List (String × Nat × Node)) :
    (maskedEntries entries).map (·.2.2) = (entries.map (·.2.2)).map Node.masked := by
  induction entries with
  | nil => rfl
  | cons entry rest ih => simp only [maskedEntries, List.map_cons, ih]

theorem children_masked (n : Node) : n.masked.children = n.children.map Node.masked := by
  cases n with
  | array start items => exact maskedItems_eq items
  | table start entries => exact maskedEntries_values entries
  | _ => rfl

theorem at?_masked (n : Node) (place : List Nat) :
    n.masked.at? place = (n.at? place).map Node.masked := by
  induction place generalizing n with
  | nil => rfl
  | cons i rest ih =>
    simp only [Node.at?, children_masked, List.getElem?_map]
    cases n.children[i]? with
    | none => rfl
    | some child => simpa using ih child

/-- The text at a place, if one is there. -/
def Node.stringAt? (n : Node) (place : List Nat) : Option String :=
  match n.at? place with
  | some (.string _ s) => some s
  | _ => none

/-- What is shown of two values that agree in all but their texts. -/
theorem unexpected_masked (m m' : Node) (same : m.masked = m'.masked) :
    (∃ start s start' s', m = .string start s ∧ m' = .string start' s') ∨
      (∀ start s, m ≠ .string start s) ∧ (∀ start s, m' ≠ .string start s) ∧
        m.unexpected = m'.unexpected := by
  cases m <;> cases m' <;> simp_all [Node.masked, Node.unexpected]

theorem display_string (printable : Char → Bool) (s : String) :
    (Unexpected.string s).display printable = "string " ++ Debug.quote printable s := rfl

theorem display_string_iff (printable : Char → Bool) (s t : String) :
    (Unexpected.string s).display printable = (Unexpected.string t).display printable ↔ s = t := by
  rw [display_string, display_string, String.append_right_inj]
  constructor
  · exact Debug.quote_injective printable s t
  · intro same
    exact congrArg (Debug.quote printable) same

end Serde
