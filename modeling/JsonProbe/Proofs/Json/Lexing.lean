import JsonProbe.Proofs.Json.Scan.String
import JsonProbe.Proofs.Json.ReaderGrammar
/-! # Splitting a document into tokens

`TokenStream.read` splits bytes into the tokens of a JSON text.  When it reaches the end of the
input, the bytes are the encoding of the tokens it found, each spelled, with blanks around them
(`read_sound`).  Conversely, the encoding of spelled tokens in which every atom is followed by a
structural token or by nothing is read back as exactly those tokens (`read_encodeList`); a
document's tokens are always so (`Grammar.Document.atomsDelimited`).

Together with the reader's grammar (`Reader.parse_eq_ok_iff_tokens`) this gives the main
theorem: the parser accepts exactly the JSON texts, each with its denotation, and everything it
accepts is well-formed UTF-8 (`parse_eq_ok_iff_jsonText`). -/
set_option autoImplicit false
namespace JsonProbe.Token
open Lexical Utf8 Grammar

/-! ## Blanks -/

theorem isBlank_cases {b : UInt8} (h : isBlank b = true) :
    b = 0x20 ∨ b = 0x09 ∨ b = 0x0A ∨ b = 0x0D := by
  simp only [isBlank, Bool.or_eq_true, beq_iff_eq] at h
  tauto

theorem toNat_lt_of_isBlank {b : UInt8} (h : isBlank b = true) : b.toNat < 0x80 := by
  rcases isBlank_cases h with rfl | rfl | rfl | rfl <;> decide

theorem isBlank_iff (b : UInt8) : isBlank b = true ↔ IsBlank (toChar b) := by
  constructor
  · intro h
    rcases isBlank_cases h with rfl | rfl | rfl | rfl <;> decide
  · intro h
    rcases h with h | h | h | h <;>
      · rw [toChar_eq_iff (by decide)] at h
        subst h
        decide

theorem isBlank_encodeList {ws : List Char} (h : ∀ c ∈ ws, IsBlank c) :
    ∀ b ∈ encodeList ws, isBlank b = true := by
  intro b hb
  obtain ⟨c, hc, hb⟩ := List.mem_flatMap.mp hb
  rcases h c hc with rfl | rfl | rfl | rfl <;>
    · rw [List.mem_singleton.mp hb]
      rfl

theorem blanks_eq_encodeList {ws : List UInt8} (h : ∀ b ∈ ws, isBlank b = true) :
    ws = encodeList (ws.map toChar) ∧ ∀ c ∈ ws.map toChar, IsBlank c := by
  refine ⟨(encodeList_map_toChar fun b hb => toNat_lt_of_isBlank (h b hb)).symm, ?_⟩
  intro c hc
  obtain ⟨b, hb, rfl⟩ := List.mem_map.mp hc
  exact (isBlank_iff b).mp (h b hb)

/-! ## Where a token ends -/

/-- What may follow a token in a document: nothing, a blank or a structural byte. -/
def Delimits (more : List UInt8) : Prop :=
  ∀ b ∈ more.head?,
    isBlank b = true ∨ b = 0x7B ∨ b = 0x7D ∨ b = 0x5B ∨ b = 0x5D ∨ b = 0x3A ∨ b = 0x2C

theorem Delimits.stopsNumber {more : List UInt8} (h : Delimits more) : StopsNumber more := by
  intro b hb
  rcases h b hb with blank | rfl | rfl | rfl | rfl | rfl | rfl
  · rcases isBlank_cases blank with rfl | rfl | rfl | rfl <;> decide
  all_goals decide

theorem Delimits.stopsWord {more : List UInt8} (h : Delimits more) : StopsWord more := by
  intro b hb
  rcases h b hb with blank | rfl | rfl | rfl | rfl | rfl | rfl
  · rcases isBlank_cases blank with rfl | rfl | rfl | rfl <;> decide
  all_goals decide

/-! ## One token -/

theorem scan_of_letter (o : Nat) {b : UInt8} (rest : List UInt8) (letter : isLetter b = true) :
    scan o b rest =
      match ofWord? ((b :: rest).takeWhile isWordByte) with
      | some t => .ok (t, ((b :: rest).takeWhile isWordByte).length - 1)
      | none => .error (.unknownIdentifier (bytesText ((b :: rest).takeWhile isWordByte)) o) := by
  have range : (0x41 ≤ b.toNat ∧ b.toNat ≤ 0x5A) ∨ (0x61 ≤ b.toNat ∧ b.toNat ≤ 0x7A) := by
    simpa [isLetter, UInt8.le_iff_toNat_le] using letter
  have differs : ∀ x : UInt8, (x.toNat < 0x41 ∨ (0x5A < x.toNat ∧ x.toNat < 0x61) ∨
      0x7A < x.toNat) → (b == x) = false := by
    intro x hx
    simp only [beq_eq_false_iff_ne, ne_eq, ← UInt8.toNat_inj]
    omega
  have notNumber : (b == 0x2D || isDigit b) = false := by
    simp only [Bool.or_eq_false_iff, isDigit, Bool.and_eq_false_iff, decide_eq_false_iff_not,
      UInt8.le_iff_toNat_le]
    refine ⟨differs _ (by decide), ?_⟩
    simp
    omega
  simp only [scan, differs 0x7B (by decide), differs 0x7D (by decide), differs 0x5B (by decide),
    differs 0x5D (by decide), differs 0x3A (by decide), differs 0x2C (by decide),
    differs 0x22 (by decide), notNumber, letter]
  rfl

theorem scan_of_numberStart (o : Nat) {b : UInt8} (rest : List UInt8)
    (start : b = 0x2D ∨ isDigit b = true) :
    scan o b rest =
      if (numberText (b :: rest)).2 then
        .ok (.number (bytesText (numberText (b :: rest)).1), (numberText (b :: rest)).1.length - 1)
      else .error (.invalidNumber (bytesText (numberText (b :: rest)).1) o) := by
  have range : b.toNat = 0x2D ∨ (0x30 ≤ b.toNat ∧ b.toNat ≤ 0x39) := by
    rcases start with rfl | digit
    · exact .inl rfl
    · exact .inr (by simpa [isDigit, UInt8.le_iff_toNat_le] using digit)
  have differs : ∀ x : UInt8, (x.toNat < 0x2D ∨ (0x2D < x.toNat ∧ x.toNat < 0x30) ∨
      0x39 < x.toNat) → (b == x) = false := by
    intro x hx
    simp only [beq_eq_false_iff_ne, ne_eq, ← UInt8.toNat_inj]
    omega
  have number : (b == 0x2D || isDigit b) = true := by
    rcases start with rfl | digit
    · rfl
    · simp [digit]
  simp only [scan, differs 0x7B (by decide), differs 0x7D (by decide), differs 0x5B (by decide),
    differs 0x5D (by decide), differs 0x3A (by decide), differs 0x2C (by decide),
    differs 0x22 (by decide), number]
  rfl

theorem bytesText_encodeList (cs : List Char) : bytesText (encodeList cs) = String.ofList cs := by
  rw [bytesText, decodeLossy_encodeList]

theorem length_encodeList_pos {cs : List Char} (h : cs ≠ []) : 0 < (encodeList cs).length :=
  List.length_pos_iff.mpr (mt encodeList_eq_nil_iff.mp h)

theorem scan_quote (o : Nat) (rest : List UInt8) :
    scan o 0x22 rest =
      match stringBody o (o + 1) [] rest with
      | .ok (value, finish) => .ok (.string value, finish - o - 1)
      | .error e => .error e := rfl

theorem scan_sound {o : Nat} {b : UInt8} {rest : List UInt8} {t : Token} {k : Nat}
    (h : scan o b rest = .ok (t, k)) :
    ∃ sp after, b :: rest = encodeList sp ++ after ∧ (encodeList sp).length = k + 1 ∧
      Spells sp t := by
  by_cases quote : b = 0x22
  · -- a string: the body read up to the closing quote spells the content
    subst quote
    rw [scan_quote] at h
    split at h
    · rename_i value finish read
      simp only [Except.ok.injEq, Prod.mk.injEq] at h
      obtain ⟨rfl, rfl⟩ := h
      obtain ⟨written, gathered, more, cs, rfl, spelled, decoded, rfl, rfl⟩ :=
        stringBody_sound o read
      rw [List.reverse_nil, List.nil_append, decode?_eq_some_iff] at decoded
      obtain ⟨body, bytes, bodySpelled⟩ :=
        spelled.exists_stringBody (by simp : ∀ b ∈ ([] : List UInt8), IsRawByte b) (by rw [List.nil_append]; exact decoded)
      rw [List.nil_append] at bytes
      have quoteEnc : encode '"' = [0x22] := rfl
      refine ⟨'"' :: (body ++ ['"']), more, ?_, ?_, Spells.string bodySpelled⟩
      · simp [encodeList_append, quoteEnc, bytes]
      · simp only [encodeList_cons, encodeList_append, encodeList_nil, quoteEnc, List.length_append,
          List.length_cons, List.length_nil, ← bytes]
        omega
    · cases h
  by_cases number : b = 0x2D ∨ isDigit b = true
  · -- a number: the scanned text is a spelled number
    rw [scan_of_numberStart o rest number] at h
    generalize scanned : numberText (b :: rest) = result at h
    obtain ⟨text, ok⟩ := result
    cases ok
    · cases h
    · simp only [if_true, Except.ok.injEq, Prod.mk.injEq] at h
      obtain ⟨rfl, rfl⟩ := h
      obtain ⟨cs, after, bytes, rfl, lit⟩ := numberText_sound scanned
      refine ⟨cs, after, bytes, ?_, ?_⟩
      · have := length_encodeList_pos lit.ne_nil
        omega
      · rw [bytesText_encodeList]
        exact Spells.number lit
  by_cases letter : isLetter b = true
  · -- a word: only the three keywords are tokens
    rw [scan_of_letter o rest letter] at h
    generalize wordIs : (b :: rest).takeWhile isWordByte = word at h
    split at h
    · rename_i t' keyword
      simp only [Except.ok.injEq, Prod.mk.injEq] at h
      obtain ⟨rfl, rfl⟩ := h
      obtain ⟨sp, rfl, spells⟩ := ofWord?_sound keyword
      refine ⟨sp, (b :: rest).dropWhile isWordByte, ?_, ?_, spells⟩
      · rw [← wordIs, List.takeWhile_append_dropWhile]
      · have := length_encodeList_pos spells.ne_nil
        omega
    · cases h
  · -- a one-byte token
    have notQuote : (b == 0x22) = false := beq_eq_false_iff_ne.mpr quote
    have notNumber : (b == 0x2D || isDigit b) = false := by
      simpa [not_or] using number
    have notLetter : isLetter b = false := by simpa using letter
    simp only [scan, notQuote, notNumber, notLetter, Bool.false_eq_true, if_false] at h
    split_ifs at h with lbrace rbrace lbracket rbracket colon comma
    · rw [beq_iff_eq] at lbrace
      subst lbrace
      cases h
      exact ⟨['{'], rest, rfl, rfl, Spells.lbrace⟩
    · rw [beq_iff_eq] at rbrace
      subst rbrace
      cases h
      exact ⟨['}'], rest, rfl, rfl, Spells.rbrace⟩
    · rw [beq_iff_eq] at lbracket
      subst lbracket
      cases h
      exact ⟨['['], rest, rfl, rfl, Spells.lbracket⟩
    · rw [beq_iff_eq] at rbracket
      subst rbracket
      cases h
      exact ⟨[']'], rest, rfl, rfl, Spells.rbracket⟩
    · rw [beq_iff_eq] at colon
      subst colon
      cases h
      exact ⟨[':'], rest, rfl, rfl, Spells.colon⟩
    · rw [beq_iff_eq] at comma
      subst comma
      cases h
      exact ⟨[','], rest, rfl, rfl, Spells.comma⟩

theorem not_isBlank_of_numberStart {b : UInt8} (start : b = 0x2D ∨ isDigit b = true) :
    isBlank b = false := by
  rcases start with rfl | digit
  · rfl
  · cases blank : isBlank b
    · rfl
    · rcases isBlank_cases blank with rfl | rfl | rfl | rfl <;> exact absurd digit (by decide)

theorem scan_keyword (o : Nat) {sp : List Char} {t : Token} {more : List UInt8}
    (keyword : (sp = ['t', 'r', 'u', 'e'] ∧ t = .boolean true) ∨
      (sp = ['f', 'a', 'l', 's', 'e'] ∧ t = .boolean false) ∨
      (sp = ['n', 'u', 'l', 'l'] ∧ t = .null))
    (stop : StopsWord more) :
    ∃ b tail, encodeList sp = b :: tail ∧ isBlank b = false ∧
      scan o b (tail ++ more) = .ok (t, tail.length) := by
  obtain ⟨word, named⟩ := takeWhile_keyword more keyword stop
  have first : ∃ b tail, encodeList sp = b :: tail ∧ isLetter b = true ∧ isBlank b = false := by
    rcases keyword with ⟨rfl, -⟩ | ⟨rfl, -⟩ | ⟨rfl, -⟩
    · exact ⟨_, _, encodeList_true, rfl, rfl⟩
    · exact ⟨_, _, encodeList_false, rfl, rfl⟩
    · exact ⟨_, _, encodeList_null, rfl, rfl⟩
  obtain ⟨b, tail, bytes, letter, notBlank⟩ := first
  refine ⟨b, tail, bytes, notBlank, ?_⟩
  rw [scan_of_letter o _ letter, ← List.cons_append, ← bytes, word, named, bytes]
  rfl

theorem scan_encodeList_append (o : Nat) {sp : List Char} {t : Token} (h : Spells sp t)
    {more : List UInt8} (delimited : isAtom t = true → Delimits more) :
    ∃ b tail, encodeList sp = b :: tail ∧ isBlank b = false ∧
      scan o b (tail ++ more) = .ok (t, tail.length) := by
  cases h with
  | lbrace => exact ⟨0x7B, [], rfl, rfl, rfl⟩
  | rbrace => exact ⟨0x7D, [], rfl, rfl, rfl⟩
  | lbracket => exact ⟨0x5B, [], rfl, rfl, rfl⟩
  | rbracket => exact ⟨0x5D, [], rfl, rfl, rfl⟩
  | colon => exact ⟨0x3A, [], rfl, rfl, rfl⟩
  | comma => exact ⟨0x2C, [], rfl, rfl, rfl⟩
  | «true» => exact scan_keyword o (.inl ⟨rfl, rfl⟩) (delimited rfl).stopsWord
  | «false» => exact scan_keyword o (.inr (.inl ⟨rfl, rfl⟩)) (delimited rfl).stopsWord
  | null => exact scan_keyword o (.inr (.inr ⟨rfl, rfl⟩)) (delimited rfl).stopsWord
  | @number cs lit =>
      obtain ⟨b, tail, bytes, start⟩ := numberLit_head lit
      refine ⟨b, tail, bytes, not_isBlank_of_numberStart start, ?_⟩
      rw [scan_of_numberStart o _ start, ← List.cons_append, ← bytes,
        numberText_encodeList_append lit (delimited rfl).stopsNumber]
      rw [if_pos rfl, bytesText_encodeList, bytes, List.length_cons, Nat.add_sub_cancel]
  | @string body content lit =>
      have quoteEnc : encode '"' = [0x22] := rfl
      refine ⟨0x22, encodeList body ++ [0x22], ?_, rfl, ?_⟩
      · simp only [encodeList_cons, encodeList_append, encodeList_nil, quoteEnc, List.append_nil,
          List.singleton_append]
      · rw [scan_quote, List.append_assoc, List.singleton_append, stringBody_complete o lit]
        simp only [List.length_append, List.length_singleton]
        congr 2
        omega

end JsonProbe.Token

namespace JsonProbe.TokenStream
open Lexical Utf8 Grammar Token

/-! ## The stream -/

theorem drop_length_takeWhile {α : Type} (p : α → Bool) (l : List α) :
    l.drop (l.takeWhile p).length = l.dropWhile p :=
  calc l.drop (l.takeWhile p).length
      = (l.takeWhile p ++ l.dropWhile p).drop (l.takeWhile p).length := by
        rw [List.takeWhile_append_dropWhile]
    _ = l.dropWhile p := List.drop_left

theorem read_of_blanks {o : Nat} {bs : List UInt8}
    (h : bs.drop (bs.takeWhile isBlank).length = []) :
    read o bs = .eof (o + (bs.takeWhile isBlank).length) := by
  rw [read]
  split
  · rfl
  · rename_i b rest same
    rw [h] at same
    cases same

theorem read_of_scan {o : Nat} {bs : List UInt8} {b : UInt8} {rest : List UInt8} {t : Token}
    {k : Nat} (h : bs.drop (bs.takeWhile isBlank).length = b :: rest)
    (scanned : scan (o + (bs.takeWhile isBlank).length) b rest = .ok (t, k)) :
    read o bs = .cons ⟨t, o + (bs.takeWhile isBlank).length⟩
      (read (o + (bs.takeWhile isBlank).length + 1 + k) (rest.drop k)) := by
  rw [read]
  split
  · rename_i same
    rw [h] at same
    cases same
  · rename_i b' rest' same
    rw [h, List.cons.injEq] at same
    obtain ⟨rfl, rfl⟩ := same
    simp only [scanned]

theorem read_of_failure {o : Nat} {bs : List UInt8} {b : UInt8} {rest : List UInt8}
    {e : LexError} (h : bs.drop (bs.takeWhile isBlank).length = b :: rest)
    (failed : scan (o + (bs.takeWhile isBlank).length) b rest = .error e) :
    read o bs = .failure e := by
  rw [read]
  split
  · rename_i same
    rw [h] at same
    cases same
  · rename_i b' rest' same
    rw [h, List.cons.injEq] at same
    obtain ⟨rfl, rfl⟩ := same
    simp only [failed]

theorem takeWhile_blank_append {ws : List UInt8} {b : UInt8} (rest : List UInt8)
    (blank : ∀ x ∈ ws, isBlank x = true) (notBlank : isBlank b = false) :
    (ws ++ b :: rest).takeWhile isBlank = ws := by
  rw [List.takeWhile_append_of_pos blank, List.takeWhile_cons_of_neg (by simp [notBlank]),
    List.append_nil]

theorem drop_blank_append {ws : List UInt8} {b : UInt8} (rest : List UInt8)
    (blank : ∀ x ∈ ws, isBlank x = true) (notBlank : isBlank b = false) :
    (ws ++ b :: rest).drop ((ws ++ b :: rest).takeWhile isBlank).length = b :: rest := by
  rw [takeWhile_blank_append rest blank notBlank, List.drop_left]

theorem read_blanks_append (o : Nat) {ws : List UInt8} {b : UInt8} {rest : List UInt8} {t : Token}
    {k : Nat} (blank : ∀ x ∈ ws, isBlank x = true) (notBlank : isBlank b = false)
    (scanned : scan (o + ws.length) b rest = .ok (t, k)) :
    read o (ws ++ b :: rest) =
      .cons ⟨t, o + ws.length⟩ (read (o + ws.length + 1 + k) (rest.drop k)) := by
  have front := takeWhile_blank_append rest blank notBlank
  rw [read_of_scan (drop_blank_append rest blank notBlank) (by rw [front]; exact scanned), front]

theorem read_blanks_append_failure (o : Nat) {ws : List UInt8} {b : UInt8} {rest : List UInt8}
    {e : LexError} (blank : ∀ x ∈ ws, isBlank x = true) (notBlank : isBlank b = false)
    (failed : scan (o + ws.length) b rest = .error e) : read o (ws ++ b :: rest) = .failure e := by
  have front := takeWhile_blank_append rest blank notBlank
  exact read_of_failure (drop_blank_append rest blank notBlank) (by rw [front]; exact failed)

theorem drop_of_front {b : UInt8} {rest l after : List UInt8} {k : Nat}
    (front : b :: rest = l ++ after) (width : l.length = k + 1) : rest.drop k = after := by
  have := congrArg (List.drop (k + 1)) front
  rwa [List.drop_succ_cons, ← width, List.drop_left] at this

theorem read_sound {o : Nat} {bs : List UInt8} {n : Nat} (h : (read o bs).ending = .ok n) :
    ∃ cs, bs = encodeList cs ∧ Spelled cs ((read o bs).lexemes.map Lexeme.token) := by
  induction o, bs using read.induct with
  | case1 o bs _ blanksOnly =>
      obtain ⟨bytes, blank⟩ := @blanks_eq_encodeList bs (fun b hb =>
        List.dropWhile_eq_nil_iff.mp (by rwa [← drop_length_takeWhile]) b hb)
      rw [read_of_blanks blanksOnly]
      exact ⟨_, bytes, Spelled.blanks blank⟩
  | case2 o bs _ _ b rest next e failed =>
      rw [read_of_failure next failed] at h
      cases h
  | case3 o bs _ _ b rest next t k scanned _ ih =>
      rw [read_of_scan next scanned] at h ⊢
      obtain ⟨cs, bytes, spelled⟩ := ih h
      obtain ⟨sp, after, front, width, spells⟩ := scan_sound scanned
      have rest_eq := drop_of_front front width
      rw [rest_eq] at bytes
      obtain ⟨blankBytes, blank⟩ :=
        @blanks_eq_encodeList (bs.takeWhile isBlank) fun x hx => List.mem_takeWhile_imp hx
      refine ⟨(bs.takeWhile isBlank).map toChar ++ sp ++ cs, ?_, Spelled.token blank spells spelled⟩
      calc bs = bs.takeWhile isBlank ++ bs.drop (bs.takeWhile isBlank).length := by
            rw [drop_length_takeWhile, List.takeWhile_append_dropWhile]
        _ = bs.takeWhile isBlank ++ (encodeList sp ++ after) := by rw [next, front]
        _ = encodeList ((bs.takeWhile isBlank).map toChar ++ sp ++ cs) := by
            rw [encodeList_append, encodeList_append, ← blankBytes, bytes, List.append_assoc]

theorem ending_read {o : Nat} {bs : List UInt8} {n : Nat} (h : (read o bs).ending = .ok n) :
    n = o + bs.length := by
  induction o, bs using read.induct with
  | case1 o bs _ blanksOnly =>
      rw [read_of_blanks blanksOnly] at h
      cases h
      have allBlank := List.drop_eq_nil_iff.mp blanksOnly
      have within : (bs.takeWhile isBlank).length ≤ bs.length :=
        (List.takeWhile_prefix isBlank).length_le
      omega
  | case2 o bs _ _ b rest next e failed =>
      rw [read_of_failure next failed] at h
      cases h
  | case3 o bs _ _ b rest next t k scanned _ ih =>
      rw [read_of_scan next scanned] at h
      have total := congrArg List.length next
      rw [List.length_drop, List.length_cons] at total
      obtain ⟨sp, after, front, width, -⟩ := scan_sound scanned
      have fits : k ≤ rest.length := by
        have lengths := congrArg List.length front
        rw [List.length_cons, List.length_append] at lengths
        omega
      rw [ih h, List.length_drop]
      omega

theorem token_ne_eof_of_mem {o : Nat} {bs : List UInt8} {l : Lexeme}
    (h : l ∈ (read o bs).lexemes) : l.token ≠ .eof := by
  induction o, bs using read.induct with
  | case1 o bs _ blanksOnly =>
      rw [read_of_blanks blanksOnly] at h
      cases h
  | case2 o bs _ _ b rest next e failed =>
      rw [read_of_failure next failed] at h
      cases h
  | case3 o bs _ _ b rest next t k scanned _ ih =>
      rw [read_of_scan next scanned, TokenStream.lexemes, List.mem_cons] at h
      rcases h with rfl | later
      · obtain ⟨sp, -, -, -, spells⟩ := scan_sound scanned
        exact spells.token_ne_eof
      · exact ih later

theorem ofBytes_braces :
    ofBytes [0x7B, 0x7D] = .cons ⟨.lbrace, 0⟩ (.cons ⟨.rbrace, 1⟩ (.eof 2)) := by
  have first := @read_of_scan 0 [0x7B, 0x7D] 0x7B [0x7D] .lbrace 0 (by decide) (by decide)
  have second := @read_of_scan 1 [0x7D] 0x7D [] .rbrace 0 (by decide) (by decide)
  have third := @read_of_blanks 2 [] (by decide)
  rw [ofBytes, first]
  show TokenStream.cons ⟨.lbrace, 0⟩ (read 1 [0x7D]) = _
  rw [second]
  show TokenStream.cons ⟨.lbrace, 0⟩ (.cons ⟨.rbrace, 1⟩ (read 2 [])) = _
  rw [third]
  rfl

theorem structural_byte {sp : List Char} {t : Token} (h : Spells sp t)
    (structural : isStructural t = true) :
    ∃ x, encodeList sp = [x] ∧
      (x = 0x7B ∨ x = 0x7D ∨ x = 0x5B ∨ x = 0x5D ∨ x = 0x3A ∨ x = 0x2C) := by
  cases h with
  | lbrace => exact ⟨0x7B, rfl, by decide⟩
  | rbrace => exact ⟨0x7D, rfl, by decide⟩
  | lbracket => exact ⟨0x5B, rfl, by decide⟩
  | rbracket => exact ⟨0x5D, rfl, by decide⟩
  | colon => exact ⟨0x3A, rfl, by decide⟩
  | comma => exact ⟨0x2C, rfl, by decide⟩
  | _ => simp [isStructural] at structural

theorem delimits_of_spelled {cs : List Char} {ts : List Token} (h : Spelled cs ts)
    (after : ∀ u ∈ ts.head?, isStructural u = true) : Delimits (encodeList cs) := by
  cases h with
  | blanks blank =>
      intro b hb
      exact .inl (isBlank_encodeList blank b (List.mem_of_mem_head? hb))
  | @token ws sp rest t ts blank spells _ =>
      intro b hb
      cases ws with
      | cons w ws =>
          have first : b ∈ encodeList (w :: ws) := by
            rw [encodeList_append, encodeList_append, List.append_assoc] at hb
            obtain ⟨x, tail, enc⟩ := exists_encode_eq_cons w
            rw [encodeList_cons, enc, List.cons_append, List.cons_append, List.head?_cons,
              Option.mem_some_iff] at hb
            rw [encodeList_cons, enc, ← hb]
            exact List.mem_cons_self
          exact .inl (isBlank_encodeList blank b first)
      | nil =>
          obtain ⟨x, bytes, structural⟩ := structural_byte spells (after t rfl)
          rw [List.nil_append, encodeList_append, bytes, List.singleton_append, List.head?_cons,
            Option.mem_some_iff] at hb
          subst hb
          exact .inr structural

/-- The encoding of spelled tokens, where every atom is followed by a structural token or by
nothing, is read back as those tokens, up to the end of the input. -/
theorem read_encodeList {cs : List Char} {ts : List Token} (h : Spelled cs ts)
    (delimited : AtomsDelimited ts) (o : Nat) :
    (read o (encodeList cs)).lexemes.map Lexeme.token = ts ∧
      ∃ n, (read o (encodeList cs)).ending = .ok n := by
  induction h generalizing o with
  | @blanks ws blank =>
      have dropped : (encodeList ws).drop ((encodeList ws).takeWhile isBlank).length = [] := by
        rw [drop_length_takeWhile, List.dropWhile_eq_nil_iff.mpr (isBlank_encodeList blank)]
      rw [read_of_blanks dropped]
      exact ⟨rfl, _, rfl⟩
  | @token ws sp rest t ts blank spells others ih =>
      obtain ⟨atomFollowed, restDelimited⟩ := delimited
      obtain ⟨b, tail, bytes, notBlank, scanned⟩ :=
        scan_encodeList_append (o + (encodeList ws).length) spells
          (fun atom => delimits_of_spelled others (atomFollowed atom))
      have front : encodeList (ws ++ sp ++ rest) =
          encodeList ws ++ b :: (tail ++ encodeList rest) := by
        rw [encodeList_append, encodeList_append, bytes, List.append_assoc, List.cons_append]
      rw [front, read_blanks_append o (isBlank_encodeList blank) notBlank scanned, List.drop_left]
      obtain ⟨tokens, n, ended⟩ := ih restDelimited (o + (encodeList ws).length + 1 + tail.length)
      exact ⟨by simp only [lexemes, List.map_cons, tokens], n, ended⟩

end JsonProbe.TokenStream

namespace JsonProbe.Lexical
open Grammar

/-! ## What the parser accepts -/

/-- The parser accepts exactly the JSON texts: the UTF-8 encodings of texts that split into
spelled tokens with blanks around them, whose tokens form one value nested at most `maxDepth`
deep; and it returns their denotation.  In particular everything it accepts is well-formed
UTF-8. -/
theorem parse_eq_ok_iff_jsonText (b : List UInt8) (t : Term) :
    (Term.parse b = .ok t ↔ JsonText b t) ∧
      (Term.parse b = .ok t → b.toByteArray.IsValidUTF8) := by
  have accepts : Term.parse b = .ok t ↔ JsonText b t := by
    rw [Reader.parse_eq_ok_iff_tokens]
    constructor
    · rintro ⟨⟨n, ended⟩, document⟩
      obtain ⟨cs, rfl, spelled⟩ := TokenStream.read_sound ended
      exact ⟨cs, _, rfl, spelled, document⟩
    · rintro ⟨cs, ts, rfl, spelled, document⟩
      obtain ⟨tokens, n, ended⟩ :=
        TokenStream.read_encodeList spelled document.atomsDelimited 0
      exact ⟨⟨n, ended⟩, by rw [TokenStream.ofBytes, tokens]; exact document⟩
  refine ⟨accepts, fun parsed => ?_⟩
  obtain ⟨cs, -, rfl, -, -⟩ := accepts.mp parsed
  exact Utf8.isValidUTF8_iff.mpr ⟨cs, rfl⟩

end JsonProbe.Lexical
