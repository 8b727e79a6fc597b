import Polycore.Json.Reader
import Polycore.Json.Value
import Polycore.Proofs.Text.Numerals

/-!
# Reading what was written

The pretty form of a value is cut into the tokens of the value (`Json.tokens_prettyAt`), and these
are put together to its tree again (`Json.takeValue_toTokens`). So a reader meets in the written
form of a value the tree of that value, and nothing after it (`Json.read_pretty`).
-/

namespace Polycore

/-! ## Numbers as they are written -/

/-- A literal that JSON allows: digits on both sides of a point and in an exponent, and no leading
zero before other digits. -/
structure Decimal.Literal.Regular (literal : Decimal.Literal) : Prop where
  whole_ne_nil : literal.whole ≠ []
  whole : ∀ c ∈ literal.whole, c.isDigit = true
  leading : ∀ c rest, literal.whole ≠ '0' :: c :: rest
  fraction : ∀ c ∈ literal.fraction, c.isDigit = true
  exponent : ∀ exponent, literal.exponent = some exponent →
    exponent.digits ≠ [] ∧ ∀ c ∈ exponent.digits, c.isDigit = true

theorem Decimal.Literal.regular_ofNat (n : Nat) : (ofNat n).Regular where
  whole_ne_nil := Numeral.write_ne_nil n
  whole _ mem := Numeral.isDigit_of_mem_write mem
  leading := Numeral.write_ne_zero_cons n
  fraction := nofun
  exponent := nofun

namespace Json

variable {text rest : List Char} {literal : Decimal.Literal}

/-! ## One token -/

theorem tokens_nil : tokens [] = [] := by
  rw [tokens]

theorem tokens_space {c : Char} (h : isSpace c = true) (rest : List Char) :
    tokens (c :: rest) = tokens rest := by
  rw [tokens, if_pos h]

theorem tokens_of_scan {c : Char} {token : Token} (solid : isSpace c = false)
    (h : scan c text = .token token rest) : tokens (c :: text) = token :: tokens rest := by
  rw [tokens, solid, if_neg Bool.false_ne_true]
  split
  · next h' =>
    cases h.symm.trans h'
    rfl
  · next h' => cases h.symm.trans h'

theorem tokens_newline (level : Nat) (rest : List Char) :
    tokens (newline level ++ rest) = tokens rest := by
  have blanks (n : Nat) : tokens (List.replicate n ' ' ++ rest) = tokens rest := by
    induction n with
    | zero => rfl
    | succ n ih => exact (tokens_space rfl _).trans ih
  exact (tokens_space rfl _).trans (blanks (2 * level))

/-! ### Texts in quotes -/

theorem hexUnit?_control : ∀ n < 0x20,
    hexUnit? '0' '0' (hexDigit (n / 16)) (hexDigit (n % 16)) = some n := by
  decide

/-- An escaped character is read as the character. -/
theorem scanString_escape (draft : Draft) (c : Char) (rest : List Char) :
    scanString draft (escape c ++ rest) = scanString (draft.char c) rest := by
  unfold escape
  iterate 7
    split
    · next h =>
      rw [h]
      rfl
  split
  · next control =>
    have unit := hexUnit?_control c.toNat control
    have single : draft.unit c.toNat = draft.char c := by
      rw [Draft.unit, if_neg (by simp; omega), if_neg (by simp; omega), Char.ofNat_toNat]
    change scanString draft ('\\' :: 'u' :: '0' :: '0' :: _ :: _ :: rest) = _
    rw [scanString, unit]
    exact congrArg (scanString · rest) single
  · next quote backslash _ _ _ _ _ plain =>
    rw [List.cons_append, List.nil_append, scanString, if_neg plain]
    · exact quote
    all_goals
      intros
      contradiction

theorem scanString_quoted (chars reversed rest : List Char) :
    scanString { reversed } (chars.flatMap escape ++ '"' :: rest) =
      .token (.string (String.ofList (reversed.reverse ++ chars)) true) rest := by
  induction chars generalizing reversed with
  | nil =>
    rw [List.append_nil]
    rfl
  | cons c chars ih =>
    rw [List.flatMap_cons, List.append_assoc, scanString_escape]
    refine (ih (c :: reversed)).trans ?_
    rw [List.reverse_cons, List.append_assoc]
    rfl

theorem tokens_quote (text : String) (rest : List Char) :
    tokens (quote text ++ rest) = .string text true :: tokens rest := by
  have scanned : scan '"' (text.toList.flatMap escape ++ '"' :: rest) =
      .token (.string (String.ofList text.toList) true) rest :=
    scanString_quoted text.toList [] rest
  rw [String.ofList_toList] at scanned
  rw [quote, List.cons_append, List.append_assoc]
  exact tokens_of_scan rfl scanned

/-! ### Numbers -/

/-- A text before which a number ends. -/
def EndsNumber (rest : List Char) : Prop :=
  ∀ c ∈ rest.head?, c.isDigit = false ∧ c ≠ '.' ∧ c ≠ 'e' ∧ c ≠ 'E'

theorem takeWhile_digits {digits : List Char} (h : ∀ c ∈ digits, c.isDigit = true)
    (ends : ∀ c ∈ rest.head?, c.isDigit = false) :
    (digits ++ rest).takeWhile Char.isDigit = digits ∧
      (digits ++ rest).dropWhile Char.isDigit = rest := by
  rw [List.takeWhile_append_of_pos h, List.dropWhile_append_of_pos h]
  cases rest with
  | nil => simp
  | cons c rest => simp [ends c rfl]

/-- What stands after the digits of a number: an exponent, if it has one. -/
def exponentPart (literal : Decimal.Literal) : List Char :=
  (literal.exponent.map Decimal.Exponent.write).getD []

theorem endsDigits_exponentPart (literal : Decimal.Literal) (ends : EndsNumber rest) :
    ∀ c ∈ (exponentPart literal ++ rest).head?, c.isDigit = false ∧ c ≠ '.' := by
  unfold exponentPart
  cases literal.exponent with
  | none => exact fun c mem => ⟨(ends c mem).1, (ends c mem).2.1⟩
  | some exponent =>
    intro c mem
    obtain rfl : 'e' = c := Option.some.inj mem
    decide

theorem scanNumberEnd_exponentPart (regular : literal.Regular) (ends : EndsNumber rest) :
    scanNumberEnd literal.negative literal.whole literal.fraction (exponentPart literal ++ rest) =
      .token (.number literal) rest := by
  cases known : literal.exponent with
  | none =>
    have number : literal = { literal with exponent := none } := known ▸ rfl
    rw [exponentPart, known]
    change scanNumberEnd _ _ _ rest = _
    unfold scanNumberEnd
    split
    · exact absurd rfl (ends 'e' rfl).2.2.1
    · exact absurd rfl (ends 'E' rfl).2.2.2
    · rw [← number]
  | some exponent =>
    obtain ⟨nonempty, digits⟩ := regular.exponent exponent known
    obtain ⟨taken, dropped⟩ := takeWhile_digits digits fun c mem => (ends c mem).1
    have signed : Decimal.takeSign
        ((if exponent.negative then '-' else '+') :: (exponent.digits ++ rest)) =
          (exponent.negative, exponent.digits ++ rest) := by
      cases exponent.negative <;> rfl
    rw [exponentPart, known]
    change scanExponent _ _ _ (_ :: (exponent.digits ++ rest)) = _
    rw [scanExponent, signed]
    simp only [taken, dropped, List.isEmpty_iff, nonempty, if_false, ← known]

theorem scanNumber_write (regular : literal.Regular) (ends : EndsNumber rest) :
    scanNumber literal.negative (literal.whole ++
        ((if literal.fraction.isEmpty then [] else '.' :: literal.fraction) ++
          (exponentPart literal ++ rest))) =
      .token (.number literal) rest := by
  have last := scanNumberEnd_exponentPart regular ends
  have after := endsDigits_exponentPart literal ends
  cases known : literal.fraction with
  | nil =>
    obtain ⟨taken, dropped⟩ := takeWhile_digits regular.whole fun c mem => (after c mem).1
    rw [known] at last
    change scanNumber _ (literal.whole ++ (exponentPart literal ++ rest)) = _
    unfold scanNumber
    rw [taken, dropped]
    split
    · next empty => exact absurd empty regular.whole_ne_nil
    · next zero => exact absurd zero (regular.leading _ _)
    · split
      · next point =>
        rw [point] at after
        exact absurd rfl (after '.' rfl).2
      · exact last
  | cons c fraction =>
    have digits := regular.fraction
    rw [known] at digits last
    obtain ⟨takenFraction, droppedFraction⟩ := takeWhile_digits digits fun c mem => (after c mem).1
    have point : ∀ first ∈ ('.' :: (c :: fraction ++ (exponentPart literal ++ rest))).head?,
        first.isDigit = false := by
      intro first mem
      obtain rfl : '.' = first := Option.some.inj mem
      rfl
    obtain ⟨taken, dropped⟩ := takeWhile_digits regular.whole point
    change scanNumber _
      (literal.whole ++ '.' :: (c :: fraction ++ (exponentPart literal ++ rest))) = _
    unfold scanNumber
    rw [taken, dropped]
    split
    · next empty => exact absurd empty regular.whole_ne_nil
    · next zero => exact absurd zero (regular.leading _ _)
    · simp only [takenFraction, droppedFraction]
      exact last

theorem isSpace_digit {c : Char} (h : c.isDigit = true) : isSpace c = false := by
  refine Bool.eq_false_iff.mpr fun space => ?_
  simp only [isSpace, Bool.or_eq_true, beq_iff_eq] at space
  rcases space with ((rfl | rfl) | rfl) | rfl <;> cases h

theorem scan_digit {c : Char} (h : c.isDigit = true) (text : List Char) :
    scan c text = scanNumber false (c :: text) := by
  unfold scan
  split
  all_goals
    first
      | cases h
      | exact if_pos h

theorem tokens_number (regular : literal.Regular) (ends : EndsNumber rest) :
    tokens (literal.write ++ rest) = .number literal :: tokens rest := by
  have scanned := scanNumber_write regular ends
  have written : literal.write ++ rest = (if literal.negative then ['-'] else []) ++
      (literal.whole ++ ((if literal.fraction.isEmpty then [] else '.' :: literal.fraction) ++
        (exponentPart literal ++ rest))) := by
    simp only [Decimal.Literal.write, exponentPart, List.append_assoc]
  rw [written]
  cases whole : literal.whole with
  | nil => exact absurd whole regular.whole_ne_nil
  | cons first others =>
    have digit : first.isDigit = true := regular.whole first (whole ▸ List.mem_cons_self)
    rw [whole] at scanned
    cases sign : literal.negative with
    | true =>
      rw [sign] at scanned
      exact tokens_of_scan rfl scanned
    | false =>
      rw [sign, List.cons_append, ← scan_digit digit] at scanned
      exact tokens_of_scan (isSpace_digit digit) scanned

/-! ## The tokens of a value -/

mutual

/-- The tokens of a written value. -/
def toTokens : Json → List Token
  | null => [.null]
  | bool value => [.bool value]
  | number literal => [.number literal]
  | string text => [.string text true]
  | array [] => [.openArray, .closeArray]
  | array (item :: rest) => .openArray :: (toTokens item ++ itemTokens rest)
  | object [] => [.openObject, .closeObject]
  | object ((key, value) :: rest) =>
    .openObject :: .string key true :: .colon :: (toTokens value ++ memberTokens rest)

/-- The tokens of further items, and of the end of the array. -/
def itemTokens : List Json → List Token
  | [] => [.closeArray]
  | item :: rest => .comma :: (toTokens item ++ itemTokens rest)

/-- The tokens of further members, and of the end of the object. -/
def memberTokens : List (String × Json) → List Token
  | [] => [.closeObject]
  | (key, value) :: rest =>
    .comma :: .string key true :: .colon :: (toTokens value ++ memberTokens rest)

end

/-- A value all of whose numbers are literals that JSON allows. -/
inductive Regular : Json → Prop where
  | null : Regular null
  | bool (value : Bool) : Regular (bool value)
  | number {literal : Decimal.Literal} (h : literal.Regular) : Regular (number literal)
  | string (text : String) : Regular (string text)
  | array {items : List Json} (h : ∀ item ∈ items, Regular item) : Regular (array items)
  | object {members : List (String × Json)} (h : ∀ member ∈ members, Regular member.2) :
    Regular (object members)

theorem regular_ofNat (n : Nat) : (ofNat n).Regular :=
  .number (Decimal.Literal.regular_ofNat n)

theorem endsNumber_prettyItems (level : Nat) (items : List Json) (rest : List Char) :
    EndsNumber (prettyItems level items ++ rest) := by
  cases items with
  | nil =>
    intro c mem
    obtain rfl : '\n' = c := Option.some.inj mem
    decide
  | cons item items =>
    intro c mem
    obtain rfl : ',' = c := Option.some.inj mem
    decide

theorem endsNumber_prettyMembers (level : Nat) (members : List (String × Json))
    (rest : List Char) : EndsNumber (prettyMembers level members ++ rest) := by
  cases members with
  | nil =>
    intro c mem
    obtain rfl : '\n' = c := Option.some.inj mem
    decide
  | cons member members =>
    intro c mem
    obtain rfl : ',' = c := Option.some.inj mem
    decide

/-- A value is cut into its tokens, wherever it stands. -/
def Cuts (value : Json) : Prop :=
  ∀ level rest, EndsNumber rest →
    tokens (value.prettyAt level ++ rest) = value.toTokens ++ tokens rest

theorem Cuts.item {value : Json} (cut : Cuts value) (level : Nat) (ends : EndsNumber rest) :
    tokens (newline level ++ (value.prettyAt level ++ rest)) = value.toTokens ++ tokens rest := by
  rw [tokens_newline, cut level rest ends]

theorem Cuts.member {value : Json} (cut : Cuts value) (key : String) (level : Nat)
    (ends : EndsNumber rest) :
    tokens (newline level ++ (quote key ++ ':' :: ' ' :: (value.prettyAt level ++ rest))) =
      .string key true :: .colon :: (value.toTokens ++ tokens rest) := by
  rw [tokens_newline, tokens_quote, tokens_of_scan rfl rfl, tokens_space rfl, cut level rest ends]

theorem tokens_prettyItems {items : List Json} (cuts : ∀ item ∈ items, Cuts item) (level : Nat)
    (rest : List Char) :
    tokens (prettyItems level items ++ rest) = itemTokens items ++ tokens rest := by
  induction items with
  | nil =>
    rw [prettyItems, List.append_assoc, tokens_newline]
    exact tokens_of_scan rfl rfl
  | cons item items ih =>
    rw [List.forall_mem_cons] at cuts
    have first := cuts.1.item (level + 1) (endsNumber_prettyItems level items rest)
    rw [prettyItems, List.cons_append, tokens_of_scan rfl rfl, List.append_assoc, List.append_assoc,
      first, ih cuts.2, itemTokens, List.cons_append, List.append_assoc]

theorem tokens_prettyMembers {members : List (String × Json)}
    (cuts : ∀ member ∈ members, Cuts member.2) (level : Nat) (rest : List Char) :
    tokens (prettyMembers level members ++ rest) = memberTokens members ++ tokens rest := by
  induction members with
  | nil =>
    rw [prettyMembers, List.append_assoc, tokens_newline]
    exact tokens_of_scan rfl rfl
  | cons member members ih =>
    rw [List.forall_mem_cons] at cuts
    have first := cuts.1.member member.1 (level + 1)
      (endsNumber_prettyMembers level members rest)
    rw [prettyMembers, List.cons_append, tokens_of_scan rfl rfl]
    simp only [List.append_assoc, List.cons_append]
    rw [first, ih cuts.2, memberTokens, List.cons_append, List.cons_append, List.cons_append,
      List.append_assoc]

/-- The pretty form of a value is cut into the tokens of the value. -/
theorem tokens_prettyAt {value : Json} (regular : value.Regular) : Cuts value := by
  induction regular with
  | null => exact fun _ _ _ => tokens_of_scan rfl rfl
  | bool value =>
    intro level rest ends
    cases value with
    | true => exact tokens_of_scan rfl rfl
    | false => exact tokens_of_scan rfl rfl
  | number regular => exact fun _ _ ends => tokens_number regular ends
  | string text => exact fun _ rest _ => tokens_quote text rest
  | @array items _ ih =>
    intro level rest _
    cases items with
    | nil => exact (tokens_of_scan rfl rfl).trans (congrArg _ (tokens_of_scan rfl rfl))
    | cons item items =>
      rw [List.forall_mem_cons] at ih
      have first := ih.1.item (level + 1) (endsNumber_prettyItems level items rest)
      rw [prettyAt, List.cons_append, tokens_of_scan rfl rfl, List.append_assoc, List.append_assoc,
        first, tokens_prettyItems ih.2, toTokens, List.cons_append, List.append_assoc]
  | @object members _ ih =>
    intro level rest _
    cases members with
    | nil => exact (tokens_of_scan rfl rfl).trans (congrArg _ (tokens_of_scan rfl rfl))
    | cons member members =>
      rw [List.forall_mem_cons] at ih
      have first := ih.1.member member.1 (level + 1)
        (endsNumber_prettyMembers level members rest)
      rw [prettyAt, List.cons_append, tokens_of_scan rfl rfl]
      simp only [List.append_assoc, List.cons_append]
      rw [first, tokens_prettyMembers ih.2, toTokens, List.cons_append, List.cons_append,
        List.cons_append, List.append_assoc]

/-! ## The tree of a value -/

mutual

/-- The tree of a written value. -/
def node : Json → Node
  | null => .null
  | bool value => .bool value
  | number literal => .number literal
  | string text => .string text true
  | array items => .array (itemNodes items)
  | object members => .object (memberNodes members)

def itemNodes : List Json → Items
  | [] => .closed
  | item :: rest => .item (node item) (itemNodes rest)

def memberNodes : List (String × Json) → Members
  | [] => .closed
  | (key, value) :: rest => .member key true (node value) (memberNodes rest)

end

theorem toTokens_append_ne (value : Json) (more tokens : List Token) :
    value.toTokens ++ more ≠ .closeArray :: tokens := by
  intro h
  unfold toTokens at h
  split at h <;> cases h

/-- The tokens of a value are taken for its tree, in as many steps as there are tokens. -/
def Taken (value : Json) : Prop :=
  ∀ steps rest, value.toTokens.length ≤ steps →
    takeValue steps (value.toTokens ++ rest) = (value.node, rest)

theorem length_itemTokens_pos (items : List Json) : 0 < (itemTokens items).length := by
  cases items with
  | nil => exact Nat.one_pos
  | cons item items => exact Nat.succ_pos _

theorem length_memberTokens_pos (members : List (String × Json)) :
    0 < (memberTokens members).length := by
  cases members with
  | nil => exact Nat.one_pos
  | cons member members => exact Nat.succ_pos _

theorem takeItems_itemTokens {first : Json} {items : List Json} (head : Taken first)
    (taken : ∀ item ∈ items, Taken item) {steps : Nat}
    (enough : (first.toTokens ++ itemTokens items).length ≤ steps) (rest : List Token) :
    takeItems steps (first.toTokens ++ (itemTokens items ++ rest)) =
      (itemNodes (first :: items), rest) := by
  induction items generalizing first steps with
  | nil =>
    simp only [itemTokens, List.length_append, List.length_singleton] at enough
    obtain ⟨fewer, rfl⟩ := Nat.exists_eq_add_one_of_ne_zero (n := steps) (by omega)
    rw [takeItems, head fewer _ (by omega)]
    rfl
  | cons item items ih =>
    rw [List.forall_mem_cons] at taken
    simp only [itemTokens, List.length_append, List.length_cons] at enough
    obtain ⟨fewer, rfl⟩ := Nat.exists_eq_add_one_of_ne_zero (n := steps) (by omega)
    have closed := length_itemTokens_pos items
    have enoughLeft : (item.toTokens ++ itemTokens items).length ≤ fewer := by
      rw [List.length_append]
      omega
    rw [takeItems, head fewer _ (by omega)]
    simp only [itemTokens, List.cons_append, List.append_assoc, ih taken.1 taken.2 enoughLeft]
    rfl

theorem takeMembers_memberTokens {first : Json} {members : List (String × Json)}
    (head : Taken first) (taken : ∀ member ∈ members, Taken member.2) {steps : Nat}
    (enough : (first.toTokens ++ memberTokens members).length ≤ steps) (key : String)
    (rest : List Token) :
    takeMembers steps
        (.string key true :: .colon :: (first.toTokens ++ (memberTokens members ++ rest))) =
      (memberNodes ((key, first) :: members), rest) := by
  induction members generalizing key first steps with
  | nil =>
    simp only [memberTokens, List.length_append, List.length_singleton] at enough
    obtain ⟨fewer, rfl⟩ := Nat.exists_eq_add_one_of_ne_zero (n := steps) (by omega)
    rw [takeMembers, head fewer _ (by omega)]
    rfl
  | cons member members ih =>
    rw [List.forall_mem_cons] at taken
    simp only [memberTokens, List.length_append, List.length_cons] at enough
    obtain ⟨fewer, rfl⟩ := Nat.exists_eq_add_one_of_ne_zero (n := steps) (by omega)
    have closed := length_memberTokens_pos members
    have enoughLeft : (member.2.toTokens ++ memberTokens members).length ≤ fewer := by
      rw [List.length_append]
      omega
    rw [takeMembers, head fewer _ (by omega)]
    simp only [memberTokens, List.cons_append, List.append_assoc,
      ih taken.1 taken.2 enoughLeft member.1]
    rfl

/-- The tokens of a value are put together to its tree. -/
theorem takeValue_toTokens {value : Json} (regular : value.Regular) : Taken value := by
  induction regular with
  | null | bool | number | string =>
    intro steps rest enough
    obtain ⟨fewer, rfl⟩ := Nat.exists_eq_add_one_of_ne_zero (Nat.ne_of_gt enough)
    rfl
  | @array items _ ih =>
    intro steps rest enough
    cases items with
    | nil =>
      rw [toTokens, List.length_cons] at enough
      obtain ⟨fewer, rfl⟩ := Nat.exists_eq_add_one_of_ne_zero (n := steps) (by omega)
      rfl
    | cons item items =>
      rw [List.forall_mem_cons] at ih
      rw [toTokens, List.length_cons] at enough
      obtain ⟨fewer, rfl⟩ := Nat.exists_eq_add_one_of_ne_zero (n := steps) (by omega)
      have inside := takeItems_itemTokens ih.1 ih.2 (Nat.le_of_succ_le_succ enough) rest
      rw [toTokens, List.cons_append, List.append_assoc, takeValue]
      · simp only [inside]
        rfl
      · exact fun tokens => toTokens_append_ne item _ tokens
  | @object members _ ih =>
    intro steps rest enough
    cases members with
    | nil =>
      rw [toTokens, List.length_cons] at enough
      obtain ⟨fewer, rfl⟩ := Nat.exists_eq_add_one_of_ne_zero (n := steps) (by omega)
      rfl
    | cons member members =>
      rw [List.forall_mem_cons] at ih
      rw [toTokens, List.length_cons, List.length_cons, List.length_cons] at enough
      obtain ⟨fewer, rfl⟩ := Nat.exists_eq_add_one_of_ne_zero (n := steps) (by omega)
      have fits : (member.2.toTokens ++ memberTokens members).length ≤ fewer := by omega
      have inside := takeMembers_memberTokens ih.1 ih.2 fits member.1 rest
      rw [toTokens, List.cons_append, List.cons_append, List.cons_append, List.append_assoc,
        takeValue]
      · simp only [inside]
        rfl
      · exact nofun

/-! ## A written value -/

variable {value : Json}

theorem tokens_pretty (regular : value.Regular) : tokens value.pretty.toList = value.toTokens := by
  have cut := tokens_prettyAt regular 0 [] nofun
  rw [tokens_nil, List.append_nil, List.append_nil] at cut
  rw [pretty, String.toList_ofList, cut]

theorem ofTokens_toTokens (regular : value.Regular) :
    ofTokens value.toTokens = (value.node, []) := by
  have taken := takeValue_toTokens regular (2 * value.toTokens.length + 2) [] (by omega)
  rwa [List.append_nil] at taken

/-- A reader meets in the written form of a value the tree of the value, and nothing after it. -/
theorem read_pretty {α : Type} (reader : Reader α) (regular : value.Regular) :
    Json.read reader value.pretty = reader value.node := by
  rw [Json.read, tokens_pretty regular, ofTokens_toTokens regular]
  dsimp only
  cases reader value.node with
  | error fault => rfl
  | ok a => rfl

end Json

end Polycore
