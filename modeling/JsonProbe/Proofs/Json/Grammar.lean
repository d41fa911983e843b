import JsonProbe.Json.Reader
import JsonProbe.Proofs.Json.Members
/-! # The token grammar of a JSON document

`Value d ts v rest`: the tokens `ts` begin with one JSON value, which denotes `v` and nests
containers at most `d` deep, and `rest` is what follows it.  `Elements` and `Members` are the
non-empty, comma-separated insides of an array and of an object, with the tokens after them as
their last index, so that a `,` is always followed by another element.  A document is a value
nested at most `maxDepth` deep with nothing after it; a top-level container has depth one.

An object denotes the map of its members (`IsObjectOf`): each key with the value of its last
occurrence, the keys in increasing order.

The section on what may follow an element (`ElementsTail`, `MembersTail`) and on the body after an
opening bracket (`ArrayBody`, `ObjectBody`) unfolds the grammar one token at a time, which is how
the reader reads it. -/
set_option autoImplicit false
namespace JsonProbe.Grammar

mutual

/-- `Value d ts v rest`: `ts` is a value denoting `v`, nested at most `d` deep, then `rest`. -/
inductive Value : Nat → List Token → Term → List Token → Prop where
  | null {d : Nat} {rest : List Token} : Value d (.null :: rest) .null rest
  | bool {d : Nat} {b : Bool} {rest : List Token} : Value d (.boolean b :: rest) (.bool b) rest
  | number {d : Nat} {n : String} {rest : List Token} :
      Value d (.number n :: rest) (.number n) rest
  | string {d : Nat} {s : String} {rest : List Token} :
      Value d (.string s :: rest) (.string s) rest
  | emptyArray {d : Nat} {rest : List Token} :
      Value (d + 1) (.lbracket :: .rbracket :: rest) (.array []) rest
  | array {d : Nat} {ts : List Token} {vs : List Term} {rest : List Token}
      (items : Elements d ts vs (.rbracket :: rest)) :
      Value (d + 1) (.lbracket :: ts) (.array vs) rest
  | emptyObject {d : Nat} {rest : List Token} :
      Value (d + 1) (.lbrace :: .rbrace :: rest) (.object []) rest
  | object {d : Nat} {ts : List Token} {ms obj : List (String × Term)} {rest : List Token}
      (members : Members d ts ms (.rbrace :: rest)) (denotes : IsObjectOf obj ms) :
      Value (d + 1) (.lbrace :: ts) (.object obj) rest

/-- `Elements d ts vs rest`: `ts` is one or more values separated by commas, then `rest`. -/
inductive Elements : Nat → List Token → List Term → List Token → Prop where
  | last {d : Nat} {ts : List Token} {v : Term} {rest : List Token}
      (item : Value d ts v rest) : Elements d ts [v] rest
  | cons {d : Nat} {ts more : List Token} {v : Term} {vs : List Term} {rest : List Token}
      (item : Value d ts v (.comma :: more)) (others : Elements d more vs rest) :
      Elements d ts (v :: vs) rest

/-- `Members d ts ms rest`: `ts` is one or more `key : value` members separated by commas, then
`rest`; `ms` lists them in order. -/
inductive Members : Nat → List Token → List (String × Term) → List Token → Prop where
  | last {d : Nat} {k : String} {ts : List Token} {v : Term} {rest : List Token}
      (value : Value d ts v rest) : Members d (.string k :: .colon :: ts) [(k, v)] rest
  | cons {d : Nat} {k : String} {ts more : List Token} {v : Term}
      {ms : List (String × Term)} {rest : List Token}
      (value : Value d ts v (.comma :: more)) (others : Members d more ms rest) :
      Members d (.string k :: .colon :: ts) ((k, v) :: ms) rest

end

/-- The tokens of a JSON document denoting `t`: one value, nested at most `maxDepth` deep, and
nothing after it. -/
def Document (ts : List Token) (t : Term) : Prop :=
  Value maxDepth ts t []

/-! ## One token at a time -/

/-- Whether a token can begin a value: a scalar, `[` or `{`. -/
def startsValue : Token → Bool
  | .rbrace | .rbracket | .colon | .comma | .eof => false
  | _ => true

theorem Value.startsValue_head {d : Nat} {x : Token} {c : List Token} {v : Term}
    {rest : List Token} (h : Value d (x :: c) v rest) : startsValue x := by
  generalize tokens : x :: c = ts at h
  cases h <;> simp_all [startsValue]

theorem Value.ne_nil {d : Nat} {ts : List Token} {v : Term} {rest : List Token}
    (h : Value d ts v rest) : ts ≠ [] := by
  cases h <;> simp

theorem Elements.ne_nil {d : Nat} {ts : List Token} {vs : List Term} {rest : List Token}
    (h : Elements d ts vs rest) : ts ≠ [] := by
  cases h with
  | last item => exact item.ne_nil
  | cons item => exact item.ne_nil

/-- What follows an element of an array: `]`, or `,` and the remaining elements and `]`. -/
def ElementsTail (d : Nat) (c : List Token) (vs : List Term) (rest : List Token) : Prop :=
  (c = .rbracket :: rest ∧ vs = []) ∨
    ∃ more, c = .comma :: more ∧ Elements d more vs (.rbracket :: rest)

/-- What follows a member of an object: `}`, or `,` and the remaining members and `}`. -/
def MembersTail (d : Nat) (c : List Token) (ms : List (String × Term)) (rest : List Token) :
    Prop :=
  (c = .rbrace :: rest ∧ ms = []) ∨
    ∃ more, c = .comma :: more ∧ Members d more ms (.rbrace :: rest)

/-- What follows `[`: the elements, if any, and `]`. -/
def ArrayBody (d : Nat) (c : List Token) (vs : List Term) (rest : List Token) : Prop :=
  (c = .rbracket :: rest ∧ vs = []) ∨ Elements d c vs (.rbracket :: rest)

/-- What follows `{`: the members, if any, and `}`. -/
def ObjectBody (d : Nat) (c : List Token) (ms : List (String × Term)) (rest : List Token) :
    Prop :=
  (c = .rbrace :: rest ∧ ms = []) ∨ Members d c ms (.rbrace :: rest)

theorem elements_iff {d : Nat} {ts : List Token} {vs : List Term} {rest : List Token} :
    Elements d ts vs (.rbracket :: rest) ↔
      ∃ v c vs', Value d ts v c ∧ ElementsTail d c vs' rest ∧ vs = v :: vs' := by
  constructor
  · intro h
    cases h with
    | last item => exact ⟨_, _, [], item, .inl ⟨rfl, rfl⟩, rfl⟩
    | cons item others => exact ⟨_, _, _, item, .inr ⟨_, rfl, others⟩, rfl⟩
  · rintro ⟨v, c, vs', item, tail, rfl⟩
    rcases tail with ⟨rfl, rfl⟩ | ⟨more, rfl, others⟩
    · exact .last item
    · exact .cons item others

theorem members_iff {d : Nat} {ts : List Token} {ms : List (String × Term)} {rest : List Token} :
    Members d ts ms (.rbrace :: rest) ↔
      ∃ k more v c ms', ts = .string k :: .colon :: more ∧ Value d more v c ∧
        MembersTail d c ms' rest ∧ ms = (k, v) :: ms' := by
  constructor
  · intro h
    cases h with
    | last value => exact ⟨_, _, _, _, [], rfl, value, .inl ⟨rfl, rfl⟩, rfl⟩
    | cons value others => exact ⟨_, _, _, _, _, rfl, value, .inr ⟨_, rfl, others⟩, rfl⟩
  · rintro ⟨k, more, v, c, ms', rfl, value, tail, rfl⟩
    rcases tail with ⟨rfl, rfl⟩ | ⟨more', rfl, others⟩
    · exact .last value
    · exact .cons value others

theorem members_string_iff {d : Nat} {k : String} {c : List Token} {ms : List (String × Term)}
    {rest : List Token} :
    Members d (.string k :: c) ms (.rbrace :: rest) ↔
      ∃ more v after ms', c = .colon :: more ∧ Value d more v after ∧
        MembersTail d after ms' rest ∧ ms = (k, v) :: ms' := by
  rw [members_iff]
  constructor
  · rintro ⟨_, more, v, after, ms', h, value, tail, rfl⟩
    obtain ⟨rfl, rfl⟩ : k = _ ∧ c = .colon :: more := by simpa using h
    exact ⟨more, v, after, ms', rfl, value, tail, rfl⟩
  · rintro ⟨more, v, after, ms', rfl, value, tail, rfl⟩
    exact ⟨k, more, v, after, ms', rfl, value, tail, rfl⟩

theorem Members.head_string {d : Nat} {x : Token} {c : List Token} {ms : List (String × Term)}
    {rest : List Token} (h : Members d (x :: c) ms rest) : ∃ k, x = .string k := by
  cases h <;> exact ⟨_, rfl⟩

theorem value_null_iff {d : Nat} {c : List Token} {v : Term} {rest : List Token} :
    Value d (.null :: c) v rest ↔ v = .null ∧ rest = c :=
  ⟨fun h => by cases h; exact ⟨rfl, rfl⟩, fun ⟨hv, hr⟩ => hv ▸ hr ▸ .null⟩

theorem value_boolean_iff {d : Nat} {b : Bool} {c : List Token} {v : Term} {rest : List Token} :
    Value d (.boolean b :: c) v rest ↔ v = .bool b ∧ rest = c :=
  ⟨fun h => by cases h; exact ⟨rfl, rfl⟩, fun ⟨hv, hr⟩ => hv ▸ hr ▸ .bool⟩

theorem value_number_iff {d : Nat} {n : String} {c : List Token} {v : Term} {rest : List Token} :
    Value d (.number n :: c) v rest ↔ v = .number n ∧ rest = c :=
  ⟨fun h => by cases h; exact ⟨rfl, rfl⟩, fun ⟨hv, hr⟩ => hv ▸ hr ▸ .number⟩

theorem value_string_iff {d : Nat} {s : String} {c : List Token} {v : Term} {rest : List Token} :
    Value d (.string s :: c) v rest ↔ v = .string s ∧ rest = c :=
  ⟨fun h => by cases h; exact ⟨rfl, rfl⟩, fun ⟨hv, hr⟩ => hv ▸ hr ▸ .string⟩

theorem value_lbracket_iff {d : Nat} {c : List Token} {v : Term} {rest : List Token} :
    Value d (.lbracket :: c) v rest ↔
      0 < d ∧ ∃ vs, ArrayBody (d - 1) c vs rest ∧ v = .array vs := by
  constructor
  · intro h
    cases h with
    | emptyArray => exact ⟨by omega, [], .inl ⟨rfl, rfl⟩, rfl⟩
    | array items => exact ⟨by omega, _, .inr items, rfl⟩
  · rintro ⟨hd, vs, body, rfl⟩
    obtain ⟨d, rfl⟩ : ∃ d', d = d' + 1 := ⟨d - 1, by omega⟩
    rcases body with ⟨rfl, rfl⟩ | items
    · exact .emptyArray
    · exact .array items

theorem value_lbrace_iff {d : Nat} {c : List Token} {v : Term} {rest : List Token} :
    Value d (.lbrace :: c) v rest ↔
      0 < d ∧ ∃ ms obj, ObjectBody (d - 1) c ms rest ∧ IsObjectOf obj ms ∧ v = .object obj := by
  constructor
  · intro h
    cases h with
    | emptyObject =>
        refine ⟨by omega, [], [], .inl ⟨rfl, rfl⟩, ?_, rfl⟩
        exact ⟨List.Pairwise.nil, by simp⟩
    | object members denotes => exact ⟨by omega, _, _, .inr members, denotes, rfl⟩
  · rintro ⟨hd, ms, obj, body, denotes, rfl⟩
    obtain ⟨d, rfl⟩ : ∃ d', d = d' + 1 := ⟨d - 1, by omega⟩
    rcases body with ⟨rfl, rfl⟩ | members
    · have : obj = [] := by simpa using denotes.eq_addMembers
      subst this
      exact .emptyObject
    · exact .object members denotes

/-! ## What follows an atom

A number, `true`, `false` or `null` is never followed by another value in a document: the next
token, if any, is a bracket, a brace, a colon or a comma.  So a document's text never depends on
where one atom ends and the next begins. -/

/-- Numbers and the three words. -/
def isAtom : Token → Bool
  | .number _ | .boolean _ | .null => true
  | _ => false

/-- Brackets, braces, colons and commas. -/
def isStructural : Token → Bool
  | .lbrace | .rbrace | .lbracket | .rbracket | .colon | .comma => true
  | _ => false

/-- Every atom in the tokens is followed by a structural token or by nothing. -/
def AtomsDelimited : List Token → Prop
  | [] => True
  | t :: ts => (isAtom t = true → ∀ u ∈ ts.head?, isStructural u = true) ∧ AtomsDelimited ts

theorem atomsDelimited_cons {t : Token} {ts : List Token} (notAtom : isAtom t = false)
    (h : AtomsDelimited ts) : AtomsDelimited (t :: ts) :=
  ⟨fun atom => absurd atom (by simp [notAtom]), h⟩

theorem atomsDelimited_cons_of_structural {t : Token} {ts : List Token}
    (after : ∀ u ∈ ts.head?, isStructural u = true) (h : AtomsDelimited ts) :
    AtomsDelimited (t :: ts) :=
  ⟨fun _ => after, h⟩

-- By mutual recursion on the derivation; `rest` is what follows the value, and it is delimited
-- and starts with a structural token wherever a value can end.
mutual

theorem Value.atomsDelimited {d : Nat} {ts : List Token} {v : Term} {rest : List Token}
    (h : Value d ts v rest) (tail : AtomsDelimited rest)
    (after : ∀ u ∈ rest.head?, isStructural u = true) : AtomsDelimited ts := by
  match h with
  | .null | .bool | .number => exact atomsDelimited_cons_of_structural after tail
  | .string => exact atomsDelimited_cons rfl tail
  | .emptyArray | .emptyObject => exact atomsDelimited_cons rfl (atomsDelimited_cons rfl tail)
  | .array items =>
      exact atomsDelimited_cons rfl
        (Elements.atomsDelimited items (atomsDelimited_cons rfl tail) (by simp [isStructural]))
  | .object members _ =>
      exact atomsDelimited_cons rfl
        (Members.atomsDelimited members (atomsDelimited_cons rfl tail) (by simp [isStructural]))

theorem Elements.atomsDelimited {d : Nat} {ts : List Token} {vs : List Term} {rest : List Token}
    (h : Elements d ts vs rest) (tail : AtomsDelimited rest)
    (after : ∀ u ∈ rest.head?, isStructural u = true) : AtomsDelimited ts := by
  match h with
  | .last item => exact Value.atomsDelimited item tail after
  | .cons item others =>
      exact Value.atomsDelimited item
        (atomsDelimited_cons rfl (Elements.atomsDelimited others tail after))
        (by simp [isStructural])

theorem Members.atomsDelimited {d : Nat} {ts : List Token} {ms : List (String × Term)}
    {rest : List Token} (h : Members d ts ms rest) (tail : AtomsDelimited rest)
    (after : ∀ u ∈ rest.head?, isStructural u = true) : AtomsDelimited ts := by
  match h with
  | .last value =>
      exact atomsDelimited_cons rfl
        (atomsDelimited_cons rfl (Value.atomsDelimited value tail after))
  | .cons value others =>
      exact atomsDelimited_cons rfl (atomsDelimited_cons rfl
        (Value.atomsDelimited value
          (atomsDelimited_cons rfl (Members.atomsDelimited others tail after))
          (by simp [isStructural])))

end

theorem Document.atomsDelimited {ts : List Token} {t : Term} (h : Document ts t) :
    AtomsDelimited ts :=
  Value.atomsDelimited h trivial (by simp)

end JsonProbe.Grammar
