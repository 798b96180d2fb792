import Mathlib.Data.List.Sort

/-
JSON values, and the canonical text of a string dictionary.

`dumpsDict` is the text of a dictionary from strings to strings with sorted
keys, the separators `,` and `:` and non-ASCII characters escaped. The result
is that the text determines the dictionary (`dumpsDict_injective`): the escape
of one character can be read back from in front of any text, and no escape
begins with the closing quote, so each string ends at the first one.
-/

namespace ApiObservatory.Foundation

/-- A JSON value. A number is kept as its literal. -/
inductive Json where
  | null
  | bool (value : Bool)
  | number (literal : String)
  | string (text : String)
  | array (elements : List Json)
  | object (fields : List (String × Json))

/-! ### Equality -/

mutual

/-- Equality of two values, by their parts. -/
def beqJson : Json → Json → Bool
  | .null, .null => true
  | .bool a, .bool b => a == b
  | .number a, .number b => a == b
  | .string a, .string b => a == b
  | .array a, .array b => beqElements a b
  | .object a, .object b => beqFields a b
  | _, _ => false

def beqElements : List Json → List Json → Bool
  | [], [] => true
  | a :: as, b :: bs => beqJson a b && beqElements as bs
  | _, _ => false

def beqFields : List (String × Json) → List (String × Json) → Bool
  | [], [] => true
  | (key, a) :: as, (key', b) :: bs => key == key' && beqJson a b && beqFields as bs
  | _, _ => false

end

mutual

theorem beqJson_iff : ∀ a b : Json, beqJson a b = true ↔ a = b
  | .null, b => by cases b <;> simp [beqJson]
  | .bool a, b => by cases b <;> simp [beqJson]
  | .number a, b => by cases b <;> simp [beqJson]
  | .string a, b => by cases b <;> simp [beqJson]
  | .array a, b => by cases b <;> simp [beqJson, beqElements_iff a]
  | .object a, b => by cases b <;> simp [beqJson, beqFields_iff a]

theorem beqElements_iff : ∀ a b : List Json, beqElements a b = true ↔ a = b
  | [], b => by cases b <;> simp [beqElements]
  | a :: as, b => by cases b <;> simp [beqElements, beqJson_iff a, beqElements_iff as]

theorem beqFields_iff : ∀ a b : List (String × Json), beqFields a b = true ↔ a = b
  | [], b => by cases b <;> simp [beqFields]
  | (key, a) :: as, b => by
      cases b with
      | nil => simp [beqFields]
      | cons item bs => obtain ⟨key', b⟩ := item; simp [beqFields, beqJson_iff a, beqFields_iff as]

end

instance : DecidableEq Json := fun a b => decidable_of_iff _ (beqJson_iff a b)

/-- The truth value of a JSON value; a number is false when all digits before its
exponent are zeros. -/
def truthy : Json → Bool
  | .null => false
  | .bool value => value
  | .number literal =>
      (literal.toList.takeWhile fun c => c != 'e' && c != 'E').any fun c => c.isDigit && c != '0'
  | .string text => text != ""
  | .array elements => !elements.isEmpty
  | .object fields => !fields.isEmpty

/-! ### The escape of one character -/

def quote : Char := Char.ofNat 0x22

def backslash : Char := Char.ofNat 0x5c

/-- The characters that are escaped with one letter, and the letters. -/
def shortEscapes : List (Char × Char) :=
  [(quote, quote), (backslash, backslash), (Char.ofNat 0x08, 'b'), (Char.ofNat 0x0c, 'f'),
    ('\n', 'n'), ('\r', 'r'), ('\t', 't')]

def hex4 (n : Nat) : List Char :=
  [Nat.digitChar (n / 4096 % 16), Nat.digitChar (n / 256 % 16), Nat.digitChar (n / 16 % 16),
    Nat.digitChar (n % 16)]

/-- Printable ASCII stands for itself; other characters are written in UTF-16
code units. -/
def escapeChar (c : Char) : List Char :=
  match shortEscapes.lookup c with
  | some letter => [backslash, letter]
  | none =>
      if ' ' ≤ c ∧ c ≤ '~' then [c]
      else if c.toNat < 0x10000 then backslash :: 'u' :: hex4 c.toNat
      else
        backslash :: 'u' :: hex4 (0xd800 + (c.toNat - 0x10000) / 1024) ++
          backslash :: 'u' :: hex4 (0xdc00 + (c.toNat - 0x10000) % 1024)

/-! ### Reading it back -/

def hexValue (c : Char) : Nat :=
  if c ≤ '9' then c.toNat - '0'.toNat else c.toNat - 'a'.toNat + 10

def readHex4 : List Char → Option (Nat × List Char)
  | a :: b :: c :: d :: rest =>
      some (((hexValue a * 16 + hexValue b) * 16 + hexValue c) * 16 + hexValue d, rest)
  | _ => none

/-- The second code unit of a character outside the basic plane. -/
def readLow (high : Nat) : List Char → Option (Char × List Char)
  | _ :: _ :: rest =>
      (readHex4 rest).map fun low =>
        (Char.ofNat (0x10000 + (high - 0xd800) * 1024 + (low.1 - 0xdc00)), low.2)
  | _ => none

/-- The character an escape of code units stands for. -/
def readUnits (text : List Char) : Option (Char × List Char) :=
  match readHex4 text with
  | none => none
  | some (n, rest) =>
      if 0xd800 ≤ n ∧ n < 0xdc00 then readLow n rest else some (Char.ofNat n, rest)

/-- The first character of the inside of a string, unless the string ends. -/
def readChar : List Char → Option (Char × List Char)
  | [] => none
  | c :: rest =>
      if c = quote then none
      else if c = backslash then
        match rest with
        | [] => none
        | letter :: rest =>
            if letter = 'u' then readUnits rest
            else ((shortEscapes.map Prod.swap).lookup letter).map (·, rest)
      else some (c, rest)

theorem hexValue_digitChar {n : Nat} (h : n < 16) : hexValue (Nat.digitChar n) = n := by
  have all : ∀ k < 16, hexValue (Nat.digitChar k) = k := by decide
  exact all n h

theorem readHex4_hex4 {n : Nat} (h : n < 0x10000) (rest : List Char) :
    readHex4 (hex4 n ++ rest) = some (n, rest) := by
  simp only [hex4, List.cons_append, List.nil_append, readHex4, Option.some.injEq, Prod.mk.injEq,
    and_true]
  rw [hexValue_digitChar (Nat.mod_lt _ (by decide)), hexValue_digitChar (Nat.mod_lt _ (by decide)),
    hexValue_digitChar (Nat.mod_lt _ (by decide)), hexValue_digitChar (Nat.mod_lt _ (by decide))]
  omega

theorem valid_toNat (c : Char) : c.toNat < 0xd800 ∨ (0xdfff < c.toNat ∧ c.toNat < 0x110000) :=
  c.valid

theorem readUnits_basic {c : Char} (basic : c.toNat < 0x10000) (rest : List Char) :
    readUnits (hex4 c.toNat ++ rest) = some (c, rest) := by
  have unpaired : ¬ (0xd800 ≤ c.toNat ∧ c.toNat < 0xdc00) := by
    have := valid_toNat c
    omega
  simp only [readUnits, readHex4_hex4 basic, if_neg unpaired, Char.ofNat_toNat]

theorem readUnits_pair {c : Char} (outside : 0x10000 ≤ c.toNat) (rest : List Char) :
    readUnits (hex4 (0xd800 + (c.toNat - 0x10000) / 1024) ++
      (backslash :: 'u' :: hex4 (0xdc00 + (c.toNat - 0x10000) % 1024) ++ rest)) =
        some (c, rest) := by
  have valid := valid_toNat c
  have high : 0xd800 + (c.toNat - 0x10000) / 1024 < 0xdc00 := by omega
  have low : 0xdc00 + (c.toNat - 0x10000) % 1024 < 0x10000 := by omega
  have back : 0x10000 + (0xd800 + (c.toNat - 0x10000) / 1024 - 0xd800) * 1024 +
      (0xdc00 + (c.toNat - 0x10000) % 1024 - 0xdc00) = c.toNat := by omega
  rw [readUnits, readHex4_hex4 (by omega)]
  simp only
  rw [if_pos ⟨by omega, high⟩]
  simp only [List.cons_append, readLow, readHex4_hex4 low, Option.map_some, back, Char.ofNat_toNat]

theorem readChar_short {c letter : Char} (h : shortEscapes.lookup c = some letter)
    (rest : List Char) : readChar (backslash :: letter :: rest) = some (c, rest) := by
  have all : ∀ entry ∈ shortEscapes,
      entry.2 ≠ 'u' ∧ (shortEscapes.map Prod.swap).lookup entry.2 = some entry.1 := by decide
  obtain ⟨before, after, split, -⟩ := List.lookup_eq_some_iff.mp h
  have mem : (c, letter) ∈ shortEscapes := by
    rw [split]
    simp
  obtain ⟨unit, back⟩ := all _ mem
  have begins : backslash ≠ quote := by decide
  simp only [readChar, if_neg begins, if_true, if_neg unit, back, Option.map_some]

/-- **An escape is read back** from in front of any text. -/
theorem readChar_escapeChar (c : Char) (rest : List Char) :
    readChar (escapeChar c ++ rest) = some (c, rest) := by
  have begins : backslash ≠ quote := by decide
  unfold escapeChar
  split
  · rename_i letter short
    exact readChar_short short rest
  · rename_i long
    have notQuote : c ≠ quote := by
      rintro rfl
      cases long
    have notBackslash : c ≠ backslash := by
      rintro rfl
      cases long
    split
    · simp only [List.cons_append, List.nil_append, readChar,
        if_neg notQuote, if_neg notBackslash]
    · split
      · rename_i basic
        simp only [List.cons_append, readChar, if_neg begins, if_true, readUnits_basic basic]
      · rename_i outside
        have pair := readUnits_pair (Nat.le_of_not_lt outside) rest
        simp only [List.cons_append] at pair
        simp only [List.cons_append, List.append_assoc, readChar, if_neg begins, if_true, pair]

theorem readChar_quote (rest : List Char) : readChar (quote :: rest) = none := by
  simp [readChar]

/-! ### Strings and dictionaries -/

/-- A string up to its closing quote determines its characters and what follows. -/
theorem escape_inj {s t x y : List Char}
    (h : s.flatMap escapeChar ++ quote :: x = t.flatMap escapeChar ++ quote :: y) :
    s = t ∧ x = y := by
  induction s generalizing t with
  | nil =>
    cases t with
    | nil => exact ⟨rfl, (List.cons.inj h).2⟩
    | cons d t =>
      have read := congrArg readChar h
      simp only [List.flatMap_nil, List.nil_append, readChar_quote, List.flatMap_cons,
        List.append_assoc, readChar_escapeChar] at read
      cases read
  | cons c s ih =>
    cases t with
    | nil =>
      have read := congrArg readChar h
      simp only [List.flatMap_nil, List.nil_append, readChar_quote, List.flatMap_cons,
        List.append_assoc, readChar_escapeChar] at read
      cases read
    | cons d t =>
      have read := congrArg readChar h
      simp only [List.flatMap_cons, List.append_assoc, readChar_escapeChar, Option.some.injEq,
        Prod.mk.injEq] at read
      obtain ⟨rfl, tail⟩ := read
      obtain ⟨rfl, rest⟩ := ih tail
      exact ⟨rfl, rest⟩

/-- The text of a string. -/
def dumpsString (s : String) : List Char := quote :: (s.toList.flatMap escapeChar ++ [quote])

theorem dumpsString_inj {s t : String} {x y : List Char}
    (h : dumpsString s ++ x = dumpsString t ++ y) : s = t ∧ x = y := by
  simp only [dumpsString, List.cons_append, List.append_assoc, List.nil_append,
    List.cons.injEq, true_and] at h
  obtain ⟨same, rest⟩ := escape_inj h
  exact ⟨String.toList_injective same, rest⟩

/-- The text of one item of a dictionary. -/
def dumpsItem (item : String × String) : List Char :=
  dumpsString item.1 ++ ':' :: dumpsString item.2

theorem dumpsItem_inj {a b : String × String} {x y : List Char}
    (h : dumpsItem a ++ x = dumpsItem b ++ y) : a = b ∧ x = y := by
  simp only [dumpsItem, List.append_assoc, List.cons_append] at h
  obtain ⟨key, rest⟩ := dumpsString_inj h
  obtain ⟨value, rest⟩ := dumpsString_inj (List.cons.inj rest).2
  exact ⟨Prod.ext key value, rest⟩

/-- Texts with a comma between two of them. -/
def commaSeparated : List (List Char) → List Char
  | [] => []
  | [text] => text
  | text :: next :: rest => text ++ ',' :: commaSeparated (next :: rest)

theorem dumpsItem_ne_nil (item : String × String) : dumpsItem item ≠ [] := by
  simp [dumpsItem, dumpsString]

theorem commaSeparated_items_inj {items others : List (String × String)}
    (h : commaSeparated (items.map dumpsItem) = commaSeparated (others.map dumpsItem)) :
    items = others := by
  induction items generalizing others with
  | nil =>
    match others with
    | [] => rfl
    | [item] => exact absurd h.symm (dumpsItem_ne_nil item)
    | item :: next :: rest => simp [commaSeparated, dumpsItem, dumpsString] at h
  | cons item items ih =>
    match items, others with
    | [], [] => exact absurd h (dumpsItem_ne_nil item)
    | _ :: _, [] => simp [commaSeparated, dumpsItem, dumpsString] at h
    | [], [other] =>
      have same : dumpsItem item ++ [] = dumpsItem other ++ [] := by
        simpa [commaSeparated] using h
      rw [(dumpsItem_inj same).1]
    | [], other :: next :: rest =>
      have same : dumpsItem item ++ [] =
          dumpsItem other ++ ',' :: commaSeparated ((next :: rest).map dumpsItem) := by
        simpa [commaSeparated] using h
      cases (dumpsItem_inj same).2
    | next :: rest, [other] =>
      have same : dumpsItem item ++ ',' :: commaSeparated ((next :: rest).map dumpsItem) =
          dumpsItem other ++ [] := by
        simpa [commaSeparated] using h
      cases (dumpsItem_inj same).2
    | next :: rest, other :: next' :: rest' =>
      simp only [List.map_cons, commaSeparated] at h
      obtain ⟨rfl, tail⟩ := dumpsItem_inj h
      have others : next :: rest = next' :: rest' := ih (List.cons.inj tail).2
      rw [others]

mutual

/-- `json.dumps` with sorted keys and the separators `,` and `:`. -/
def dumpsJson : Json → List Char
  | .null => "null".toList
  | .bool true => "true".toList
  | .bool false => "false".toList
  | .number literal => literal.toList
  | .string text => dumpsString text
  | .array elements => '[' :: (commaSeparated (dumpsElements elements) ++ [']'])
  | .object fields =>
      let sorted := (dumpsFields fields).insertionSort fun a b => a.1 ≤ b.1
      '{' :: (commaSeparated (sorted.map fun item => dumpsString item.1 ++ ':' :: item.2) ++ ['}'])

def dumpsElements : List Json → List (List Char)
  | [] => []
  | element :: rest => dumpsJson element :: dumpsElements rest

def dumpsFields : List (String × Json) → List (String × List Char)
  | [] => []
  | (key, value) :: rest => (key, dumpsJson value) :: dumpsFields rest

end

/-- `json.dumps` of a string dictionary with sorted keys and the separators
`,` and `:`. -/
def dumpsDict (dict : Std.ExtTreeMap String String) : String :=
  String.ofList ('{' :: (commaSeparated (dict.toList.map dumpsItem) ++ ['}']))

/-- **The canonical text determines the dictionary.** -/
theorem dumpsDict_injective : Function.Injective dumpsDict := by
  intro dict other h
  have chars := (List.cons.inj (String.ofList_injective h)).2
  have items := commaSeparated_items_inj (List.append_cancel_right chars)
  refine Std.ExtTreeMap.ext_toList ?_
  rw [items]

end ApiObservatory.Foundation
