import Mathlib.Data.List.Basic
import Mathlib.Data.List.TakeWhile
import Passthrough.Text.Fields

/-!
# Passthrough — the first number of a text

Texts that describe a device are read piece by piece, and from each piece one number is taken: the first
run of digits in it, as far as it goes.

* `fields_eq_splitOn`, `contains_iff` — cutting and searching a text, in terms of lists.
* `exists_splitOn_append` — where the first piece of a text ends.
* `infix_fields_iff` — what holds no separator lies in a text exactly if it lies in one of the pieces.
* `cutBytes_eq_some_iff` — the two parts of a text that is cut after a number of bytes.
* `FirstRun` — a text around the first run of characters of a kind.
* `FirstRun.leadingNumber_eq` — the number read behind what comes before the run.
* `digitsValue_decimal` — what decimal digits stand for.
-/

namespace Passthrough.Text

/-! ## Pieces -/

theorem fields_eq_splitOn (sep : Char) (cs : List Char) : fields sep cs = cs.splitOn sep := by
  induction cs with
  | nil => rfl
  | cons c cs ih =>
    rw [List.splitOn, List.splitOnP_cons_eq_if_modifyHead, fields, ih]
    by_cases same : c = sep
    · simp only [same, if_true, beq_self_eq_true, List.splitOn]
    · rw [if_neg same, if_neg (by simpa using same)]
      obtain ⟨piece, pieces, split⟩ := List.exists_cons_of_ne_nil (List.splitOn_ne_nil sep cs)
      rw [List.splitOn] at split ⊢
      rw [split]
      rfl

theorem splitOn_of_not_mem {sep : Char} {cs : List Char} (absent : sep ∉ cs) :
    cs.splitOn sep = [cs] := by
  refine List.splitOnP_eq_singleton fun c hc => ?_
  rw [beq_eq_false_iff_ne]
  rintro rfl
  exact absent hc

/-- A text is cut at its first separator. -/
theorem splitOn_append_cons {sep : Char} {cs : List Char} (absent : sep ∉ cs) (rest : List Char) :
    (cs ++ sep :: rest).splitOn sep = cs :: rest.splitOn sep := by
  rw [List.splitOn_append_cons_self, splitOn_of_not_mem absent]
  rfl

/-- Behind a text without the separator, a piece ends where the next separator is. -/
theorem exists_splitOn_append {sep : Char} {cs : List Char} (absent : sep ∉ cs) (tail : List Char) :
    ∃ more, (cs ++ tail).splitOn sep = (cs ++ tail.takeWhile (· != sep)) :: more := by
  have hfront : sep ∉ cs ++ tail.takeWhile (· != sep) := by
    intro hsep
    rcases List.mem_append.1 hsep with hsep | hsep
    · exact absent hsep
    · simpa using List.mem_takeWhile_imp hsep
  have htail := List.takeWhile_append_dropWhile (p := (· != sep)) (l := tail)
  cases hrest : tail.dropWhile (· != sep) with
  | nil =>
    refine ⟨[], ?_⟩
    rw [hrest, List.append_nil] at htail
    rw [htail] at hfront ⊢
    exact splitOn_of_not_mem hfront
  | cons c rest =>
    -- The piece is followed by a separator: nothing else ends it.
    have hc : c = sep := by
      have hhead := List.head?_dropWhile_not (· != sep) tail
      rw [hrest] at hhead
      simpa using hhead
    refine ⟨rest.splitOn sep, ?_⟩
    rw [← splitOn_append_cons hfront]
    rw [hrest, hc] at htail
    rw [List.append_assoc, htail]

/-- Only a text with a separator in it has a second piece. -/
theorem mem_of_splitOn_one {sep : Char} {cs piece : List Char}
    (second : (cs.splitOn sep)[1]? = some piece) :
    sep ∈ cs := by
  by_contra absent
  rw [splitOn_of_not_mem absent] at second
  cases second

theorem getElem?_eq_some_three_iff {α : Type} {l : List α} {a b c : α} :
    (l[0]? = some a ∧ l[1]? = some b ∧ l[2]? = some c) ↔ ∃ more, l = a :: b :: c :: more := by
  match l with
  | [] | [_] | [_, _] => simp
  | d :: e :: f :: more => simp

theorem contains_iff {needle cs : List Char} : contains needle cs = true ↔ needle <:+: cs := by
  induction cs with
  | nil => rw [contains, List.isEmpty_iff, List.infix_nil]
  | cons c cs ih =>
    rw [contains, Bool.or_eq_true, List.isPrefixOf_iff_prefix, ih, List.infix_cons_iff]

/-! ## Searching -/

variable {needle : List Char}

/-- What does not hold a character lies before it or behind it. -/
theorem infix_append_cons_iff {xs ys : List Char} {d : Char} (absent : d ∉ needle) :
    needle <:+: xs ++ d :: ys ↔ needle <:+: xs ∨ needle <:+: ys := by
  constructor
  · intro found
    rcases List.infix_append_iff.1 found with found | found | ⟨l₁, l₂, rfl, h₁, h₂⟩
    · exact .inl found
    · rcases List.infix_cons_iff.1 found with found | found
      · rcases List.prefix_cons_iff.1 found with rfl | ⟨rest, rfl, -⟩
        · exact .inl (List.nil_infix)
        · exact absurd List.mem_cons_self absent
      · exact .inr found
    · rcases List.prefix_cons_iff.1 h₂ with rfl | ⟨rest, rfl, -⟩
      · rw [List.append_nil]
        exact .inl h₁.isInfix
      · exact absurd (List.mem_append_right l₁ List.mem_cons_self) absent
  · rintro (found | found)
    · exact found.trans (List.prefix_append xs _).isInfix
    · exact found.trans ((List.suffix_cons d ys).trans (List.suffix_append xs _)).isInfix

/-- What holds no separator lies in a text exactly if it lies in a piece of it. -/
theorem infix_fields_iff {sep : Char} (absent : sep ∉ needle) (cs : List Char) :
    needle <:+: cs ↔ ∃ piece ∈ fields sep cs, needle <:+: piece := by
  have joined : ∀ pieces, pieces ≠ [] →
      (needle <:+: joinFields sep pieces ↔ ∃ piece ∈ pieces, needle <:+: piece) := by
    intro pieces
    induction pieces with
    | nil => exact fun none => absurd rfl none
    | cons piece pieces ih =>
      intro _
      cases pieces with
      | nil => simp [joinFields]
      | cons next rest =>
        rw [joinFields, infix_append_cons_iff absent, ih (List.cons_ne_nil _ _)]
        · simp only [List.mem_cons, exists_eq_or_imp]
        · exact List.cons_ne_nil _ _
  have text := joined (fields sep cs) (fields_ne_nil sep cs)
  rwa [joinFields_fields] at text

/-- What holds no character of a run lies before the run or behind it. -/
theorem infix_append_run_iff {before run after : List Char} (some : run ≠ [])
    (absent : ∀ c ∈ run, c ∉ needle) :
    needle <:+: before ++ (run ++ after) ↔ needle <:+: before ∨ needle <:+: after := by
  induction run generalizing before with
  | nil => exact absurd rfl some
  | cons c run ih =>
    rw [List.cons_append, infix_append_cons_iff (absent c List.mem_cons_self)]
    cases run with
    | nil => rfl
    | cons d run =>
      have rest := @ih [] (List.cons_ne_nil _ _) fun e he =>
        absent e (List.mem_cons_of_mem c he)
      rw [List.nil_append] at rest
      rw [rest, List.infix_nil]
      constructor
      · rintro (found | rfl | found)
        · exact .inl found
        · exact .inl List.nil_infix
        · exact .inr found
      · rintro (found | found)
        · exact .inl found
        · exact .inr (.inr found)

/-! ## Cuts -/

variable {cs front back : List Char}

theorem byteLength_eq (cs : List Char) : byteLength cs = (String.ofList cs).utf8ByteSize := by
  induction cs with
  | nil => rfl
  | cons c cs ih =>
    show c.utf8Size + byteLength cs = _
    rw [ih]
    simp [String.ofList_cons]

theorem byteLength_cons (c : Char) (cs : List Char) :
    byteLength (c :: cs) = c.utf8Size + byteLength cs := rfl

theorem byteLength_append (front back : List Char) :
    byteLength (front ++ back) = byteLength front + byteLength back := by
  simp [byteLength_eq, String.ofList_append]

theorem byteLength_eq_zero_iff : byteLength cs = 0 ↔ cs = [] := by
  cases cs with
  | nil => simp [byteLength]
  | cons c cs =>
    have hc := c.utf8Size_pos
    simp [byteLength_cons]
    omega

/-- A text is cut where its front has the number of bytes. -/
theorem cutBytes_eq_some_iff {n : Nat} :
    cutBytes n cs = some (front, back) ↔ cs = front ++ back ∧ byteLength front = n := by
  fun_induction cutBytes n cs generalizing front with
  | case1 cs =>
    rw [byteLength_eq_zero_iff, Option.some.injEq, Prod.mk.injEq]
    constructor
    · rintro ⟨rfl, rfl⟩
      exact ⟨rfl, rfl⟩
    · rintro ⟨h, rfl⟩
      exact ⟨rfl, h⟩
  | case2 n =>
    simp only [reduceCtorEq, false_iff]
    rintro ⟨h, hn⟩
    rw [(List.append_eq_nil_iff.1 h.symm).1] at hn
    cases hn
  | case3 n c cs fits ih =>
    have hc := c.utf8Size_pos
    cases front with
    | nil => simp [byteLength]
    | cons d front =>
      have hmap : ((cutBytes (n + 1 - c.utf8Size) cs).map fun x => (c :: x.1, x.2))
          = some (d :: front, back) ↔ c = d ∧ cutBytes (n + 1 - c.utf8Size) cs = some (front, back) := by
        simp [and_assoc, and_comm]
      rw [hmap, ih, byteLength_cons, List.cons_append, List.cons.injEq, and_assoc]
      refine and_congr_right ?_
      rintro rfl
      refine and_congr_right fun _ => ?_
      omega
  | case4 n c cs large =>
    simp only [reduceCtorEq, false_iff]
    rintro ⟨h, hn⟩
    cases front with
    | nil => cases hn
    | cons d front =>
      rw [List.cons_append, List.cons.injEq] at h
      rw [byteLength_cons, ← h.1] at hn
      omega

/-! ## Runs of characters -/

variable {p : Char → Bool} {piece before run after : List Char}

/-- The first run of characters of the kind `p` in `piece`, with what comes before it and after it.  None
of the kind comes before, and the run does not go on. -/
structure FirstRun (p : Char → Bool) (piece before run after : List Char) : Prop where
  piece_eq : piece = before ++ (run ++ after)
  not_before : ∀ c ∈ before, p c = false
  run_ne_nil : run ≠ []
  of_run : ∀ c ∈ run, p c = true
  not_after : ∀ c ∈ after.head?, p c = false

/-- A text has a first run of a kind exactly if it has a character of the kind. -/
theorem exists_firstRun_iff :
    (∃ before run after, FirstRun p piece before run after) ↔ ∃ c ∈ piece, p c = true := by
  constructor
  · rintro ⟨before, run, after, first⟩
    obtain ⟨c, rest, rfl⟩ := List.exists_cons_of_ne_nil first.run_ne_nil
    exact ⟨c, by rw [first.piece_eq]; simp, first.of_run c List.mem_cons_self⟩
  · rintro ⟨c, hc, kind⟩
    have rest_ne : piece.dropWhile (!p ·) ≠ [] := by
      rw [ne_eq, List.dropWhile_eq_nil_iff]
      intro none
      have other := none c hc
      rw [kind] at other
      cases other
    obtain ⟨d, rest, hrest⟩ := List.exists_cons_of_ne_nil rest_ne
    have first_kind : p d = true := by
      have head := List.head?_dropWhile_not (!p ·) piece
      rw [hrest] at head
      simpa using head
    refine ⟨piece.takeWhile (!p ·), (d :: rest).takeWhile p, (d :: rest).dropWhile p, ?_, ?_, ?_, ?_, ?_⟩
    · rw [List.takeWhile_append_dropWhile, ← hrest, List.takeWhile_append_dropWhile]
    · intro e he
      simpa using List.mem_takeWhile_imp he
    · rw [List.takeWhile_cons, if_pos first_kind]
      exact List.cons_ne_nil _ _
    · exact fun e he => List.mem_takeWhile_imp he
    · intro e he
      have head := List.head?_dropWhile_not p (d :: rest)
      rw [Option.mem_def.1 he] at head
      exact head

namespace FirstRun

theorem takeWhile_eq (first : FirstRun p piece before run after) :
    (run ++ after).takeWhile p = run := by
  rw [List.takeWhile_append_of_pos first.of_run]
  cases after with
  | nil => simp
  | cons c rest =>
    have stop : p c = false := first.not_after c rfl
    rw [List.takeWhile_cons, stop]
    simp

/-- What lies before the run is passed over exactly up to the run, if no more than the kind is asked. -/
theorem dropWhile_eq (first : FirstRun p piece before run after) {q : Char → Bool}
    (passes : ∀ c ∈ before, q c = true) (stops : ∀ c, p c = true → q c = false) :
    piece.dropWhile q = run ++ after := by
  rw [first.piece_eq, List.dropWhile_append_of_pos passes]
  obtain ⟨c, rest, rfl⟩ := List.exists_cons_of_ne_nil first.run_ne_nil
  have stop : q c = false := stops c (first.of_run c List.mem_cons_self)
  rw [List.cons_append, List.dropWhile_cons, stop]
  simp

theorem isEmpty_run (first : FirstRun p piece before run after) : run.isEmpty = false := by
  rw [List.isEmpty_eq_false_iff]
  exact first.run_ne_nil

/-- The run is the only one that comes first. -/
theorem unique (first : FirstRun p piece before run after) {before' run' after' : List Char}
    (other : FirstRun p piece before' run' after') :
    before' = before ∧ run' = run ∧ after' = after := by
  have rest := first.dropWhile_eq (q := (!p ·)) (by simpa using first.not_before) (by simp)
  have rest' := other.dropWhile_eq (q := (!p ·)) (by simpa using other.not_before) (by simp)
  have same : run' ++ after' = run ++ after := rest'.symm.trans rest
  have runs : run' = run := by rw [← other.takeWhile_eq, ← first.takeWhile_eq, same]
  have pieces := first.piece_eq.symm.trans other.piece_eq
  rw [same] at pieces
  rw [runs] at same
  exact ⟨(List.append_cancel_right pieces).symm, runs, List.append_cancel_left same⟩

/-- Of a run of digits the whole number is read, or none if it is too large for a word. -/
theorem leadingNumber_eq {radix : Nat} (first : FirstRun (isDigit radix) piece before run after) :
    leadingNumber radix (run ++ after)
      = if digitsValue radix run < UInt64.size then some (digitsValue radix run) else none := by
  unfold leadingNumber
  rw [first.takeWhile_eq]
  dsimp only
  rw [first.isEmpty_run]
  rfl

end FirstRun

theorem leadingNumber_of_head {radix : Nat} {cs : List Char}
    (other : ∀ c ∈ cs.head?, isDigit radix c = false) : leadingNumber radix cs = none := by
  unfold leadingNumber
  cases cs with
  | nil => rfl
  | cons c rest =>
    have stop : isDigit radix c = false := other c rfl
    rw [List.takeWhile_cons, stop]
    rfl

/-! ## Decimal digits -/

/-- To the base ten the letters are too large, and the ASCII digits are left. -/
theorem digitValue?_decimal (c : Char) :
    digitValue? 10 c = if c.isDigit then some (c.toNat - '0'.toNat) else none := by
  have range : c.isDigit = true ↔ '0' ≤ c ∧ c ≤ '9' := by
    simp [Char.isDigit, Char.le_def]
  unfold digitValue?
  by_cases digit : '0' ≤ c ∧ c ≤ '9'
  · have small : c.toNat - '0'.toNat < 10 := by
      have le : c.toNat ≤ '9'.toNat := digit.2
      have nine : '9'.toNat = 57 := rfl
      have zero : '0'.toNat = 48 := rfl
      omega
    rw [if_pos digit, if_pos (range.2 digit)]
    exact Option.filter_some_pos (by simpa using small)
  · rw [if_neg digit, if_neg (mt range.1 digit)]
    split
    · simp
    · split <;> simp

theorem isDigit_decimal : isDigit 10 = Char.isDigit := by
  funext c
  rw [isDigit, digitValue?_decimal]
  cases c.isDigit <;> rfl

theorem digitsValue_decimal {digits : List Char} (decimal : ∀ c ∈ digits, c.isDigit = true) :
    digitsValue 10 digits = Nat.ofDigitChars 10 digits 0 := by
  unfold digitsValue Nat.ofDigitChars
  refine List.foldl_ext _ _ _ fun n c hc => ?_
  rw [digitValue?_decimal, if_pos (decimal c hc)]
  rfl

end Passthrough.Text
