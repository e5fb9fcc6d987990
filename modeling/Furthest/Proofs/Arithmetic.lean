import Furthest.Proofs.DecimalRuns
import Furthest.Proofs.Entries

/-!
# Arithmetic

A grammar of sums and differences of numbers, where an expression may stand in parentheses.
It refers to itself twice: behind an operator, so that both operators are grouped to the
right, and in parentheses.

A choice keeps the first of its parsers that matches and never tries another one, so it has
to be shown that nothing is cut short. That a sentence is read to its end rests on what may
follow: behind a number there is no digit, behind a term there is no operator unless an
expression follows it, and behind an expression there is nothing or a closing parenthesis.
That nothing else is accepted is the other direction: wherever the grammar matches, what it
has matched is a sentence, so that a text that is none is not matched to its end.

## Main definitions

* `Arithmetic.Expression`, `Arithmetic.Term`: the sentences and their values.
* `Store.arithmetic`: the grammar.

## Main results

* `Arithmetic.settles_expression`: an expression is read where one stands.
* `Arithmetic.reads_lazy`: what is read is an expression.
* `Store.parse_arithmetic`: **what comes of every text.**
-/

namespace Furthest

/-! ### Sentences -/

namespace Arithmetic

/-- The operators. -/
inductive Operator where
  /-- The sum. -/
  | plus
  /-- The difference. -/
  | minus

/-- How an operator is written. -/
def Operator.text : Operator → Text
  | plus => "+"
  | minus => "-"

/-- What an operator makes of two integers. -/
def Operator.apply : Operator → Int → Int → Int
  | plus, x, y => x + y
  | minus, x, y => x - y

/-- A run of decimal digits, at least one. -/
structure Digits where
  /-- The digits. -/
  text : Text
  /-- There is one. -/
  ne_nil : text ≠ []
  /-- All are digits. -/
  decimal : ∀ c ∈ text, c ∈ Charset.decimal

/-- The number that the digits stand for. -/
def Digits.value (d : Digits) : Int := Text.positionalValue 10 d.text

mutual

/-- An expression: a term, or a term, an operator and an expression. -/
inductive Expression where
  /-- A term alone. -/
  | term (t : Term)
  /-- A term and what is added to it or subtracted from it. -/
  | binary (t : Term) (op : Operator) (e : Expression)

/-- A term: a number, or an expression in parentheses. -/
inductive Term where
  /-- A number. -/
  | number (d : Digits)
  /-- An expression in parentheses. -/
  | parens (e : Expression)

end

mutual

/-- How an expression is written. -/
def Expression.text : Expression → Text
  | .term t => t.text
  | .binary t op e => t.text ++ (op.text ++ e.text)

/-- How a term is written. -/
def Term.text : Term → Text
  | .number d => d.text
  | .parens e => "(" ++ (e.text ++ ")")

end

mutual

/-- The value of an expression, where all operators are grouped to the right. -/
def Expression.value : Expression → Int
  | .term t => t.value
  | .binary t op e => op.apply t.value e.value

/-- The value of a term. -/
def Term.value : Term → Int
  | .number d => d.value
  | .parens e => e.value

end

section

variable (t : Term) (op : Operator) (e : Expression) (rest : Text)

theorem Operator.length_text : op.text.length = 1 := by cases op <;> rfl

theorem Term.parens_append :
    (parens e).text ++ rest = "(" ++ (e.text ++ (")" ++ rest)) := by
  rw [text, List.append_assoc, List.append_assoc]

theorem Term.length_parens : (parens e).text.length = 1 + e.text.length + 1 := by
  rw [text, List.length_append, List.length_append]
  exact (Nat.add_assoc 1 _ 1).symm

theorem Term.text_ne_nil : t.text ≠ [] := by
  cases t with
  | number d =>
      rw [text]
      exact d.ne_nil
  | parens e =>
      rw [text]
      exact List.cons_ne_nil _ _

theorem Expression.text_ne_nil : e.text ≠ [] := by
  cases e with
  | term t =>
      rw [text]
      exact t.text_ne_nil
  | binary t op e =>
      rw [text]
      exact List.append_ne_nil_of_left_ne_nil t.text_ne_nil _

theorem Expression.binary_append :
    (binary t op e).text ++ rest = t.text ++ (op.text ++ (e.text ++ rest)) := by
  rw [text, List.append_assoc, List.append_assoc]

theorem Expression.length_binary :
    (binary t op e).text.length = t.text.length + op.text.length + e.text.length := by
  rw [text, List.length_append, List.length_append, Nat.add_assoc]

end

/-! ### The grammar -/

/-- Reads an integer, with no limit on the number of its digits. -/
def readInteger (v : Value) : Effect Value := .ofExcept (v.toInteger none)

/-- The sum or the difference of two operands around an operator. -/
def applyOperator : List Value → Effect Value
  | [x, op, y] => .ofExcept (if op.equal (.text "+") then x.add y else x.sub y)
  | _ => .raise .badArguments

/-- A number. -/
def number : Parser := (Parser.ofPattern "[0-9]+").map readInteger

/-- An expression in parentheses. -/
def parens : Parser := ((Parser.literal "(").andThen (.lazy 0)).skip (.literal ")")

/-- A term, which may hold an expression. -/
def term : Parser := .alternatives [number, parens]

/-- A term, an operator and an expression. -/
def binary : Parser := .seqMap [term, .literals ["+", "-"], .lazy 0] applyOperator

/-- An expression, which may end with another one. -/
def expression : Parser := .alternatives [binary, term]

end Arithmetic

/-- The grammar of arithmetic: a lazy parser that is built as an expression. -/
def Store.arithmetic : Store :=
  empty.allocate [.mk "expression" fun _ _ _ => .ok (.parser Arithmetic.expression, [])]

/-- The builder of the grammar always returns the same parser. -/
theorem Store.arithmetic_presents : arithmetic.Presents fun _ => Arithmetic.expression where
  unresolved := by
    intro j slot hj
    match j with
    | 0 =>
        cases hj
        rfl
  constant := by
    intro j slot hj attempt next
    match j with
    | 0 =>
        cases hj
        rfl

namespace Arithmetic

/-- Runs of the grammar on a text, where lazy parsers may be run inside each other to a
depth. -/
def setting (src : Text) (rounds depth : Nat) : Setting :=
  ⟨src, ⟨depth, rounds⟩, Store.arithmetic.Later⟩

variable {S : Setting} {src rest : Text} {rounds depth pos : Nat} {o : Option (Nat × Value)}

/-- The lazy parser does what an expression does, one level deeper. -/
theorem settles_lazy (h : (setting src rounds depth).Settles expression pos o) :
    (setting src rounds (depth + 1)).Settles (.lazy 0) pos o :=
  Store.arithmetic_presents.settles_lazy Nat.one_pos rfl h

/-! ### Numbers and operators -/

theorem readInteger_text (d : Digits) : readInteger (.text d.text) = pure (.int d.value) := by
  rw [readInteger, Value.toInteger, Value.ofNumeral,
    Text.readInteger_decimal d.decimal d.ne_nil rfl]
  rfl

theorem applyOperator_int (op : Operator) (x y : Int) :
    applyOperator [.int x, .text op.text, .int y] = pure (.int (op.apply x y)) := by
  cases op <;> rfl

section

variable (hsrc : S.src.length < Text.offsetLimit)
include hsrc

theorem number_some (d : Digits) (h : S.src.RestAt pos (d.text ++ rest))
    (hrest : Text.NotLedBy Charset.decimal rest) :
    S.Settles number pos (some (pos + d.text.length, .int d.value)) := by
  rw [number, Regex.Pattern.ofPattern_decimalRun]
  have hmatch := Regex.Pattern.decimalRun_some hsrc h d.ne_nil d.decimal hrest
  exact (Setting.Settles.regex hmatch).map (readInteger_text d)

theorem number_none (h : S.src.RestAt pos rest) (hrest : Text.NotLedBy Charset.decimal rest) :
    S.Settles number pos none := by
  rw [number, Regex.Pattern.ofPattern_decimalRun]
  exact (Setting.Settles.regex_none (Regex.Pattern.decimalRun_none hsrc h hrest)).map_none _

end

/-- The parser of the operators. -/
theorem operators_eq :
    Parser.literals ["+", "-"] = .alternatives [.literal "+", .literal "-"] := rfl

theorem operator_some (op : Operator) (h : S.src.RestAt pos (op.text ++ rest)) :
    S.Settles (.literals ["+", "-"]) pos (some (pos + op.text.length, .text op.text)) := by
  rw [operators_eq]
  cases op with
  | plus => exact .alternatives_head (.literal h) _
  | minus =>
      have hplus : ¬ "+" <+: Operator.minus.text ++ rest :=
        Text.not_prefix_append rest rfl (by decide)
      exact .alternatives (List.forall_mem_singleton.mpr (.literal_none h hplus)) (.literal h)
        []

theorem operator_none (h : S.src.RestAt pos rest)
    (hrest : ∀ op : Operator, ¬ op.text <+: rest) :
    S.Settles (.literals ["+", "-"]) pos none := by
  rw [operators_eq]
  refine .alternatives_none ?_
  rw [List.forall_mem_cons, List.forall_mem_singleton]
  exact ⟨.literal_none h (hrest .plus), .literal_none h (hrest .minus)⟩

/-! ### Terms and expressions -/

/-- No number starts with an opening parenthesis. -/
theorem notLedBy_open (rest : Text) : Text.NotLedBy Charset.decimal ("(" ++ rest) :=
  Text.notLedBy_cons (by decide)

section

variable {i : Nat} {v : Value}

/-- An expression in parentheses. -/
theorem parens_some (e : Expression) (h : S.src.RestAt pos ((Term.parens e).text ++ rest))
    (he : S.Settles (.lazy 0) (pos + 1) (some (pos + 1 + e.text.length, .int e.value))) :
    S.Settles parens pos (some (pos + (Term.parens e).text.length, .int e.value)) := by
  rw [Term.parens_append] at h
  rw [Term.length_parens, ← Nat.add_assoc, ← Nat.add_assoc]
  exact .skip (.andThen (.literal h) he) (.literal h.advance.advance)

/-- A term, an operator and an expression. -/
theorem expression_binary (t : Term) (op : Operator) (e : Expression)
    (h : S.src.RestAt pos ((Expression.binary t op e).text ++ rest))
    (ht : S.Settles term pos (some (pos + t.text.length, .int t.value)))
    (he : S.Settles (.lazy 0) (pos + t.text.length + op.text.length)
      (some (pos + t.text.length + op.text.length + e.text.length, .int e.value))) :
    S.Settles expression pos (some (pos + (Expression.binary t op e).text.length,
      .int (Expression.binary t op e).value)) := by
  rw [Expression.binary_append] at h
  rw [Expression.length_binary, ← Nat.add_assoc, ← Nat.add_assoc, Expression.value]
  have hrow := Setting.Row.cons ht (.cons (operator_some op h.advance) (.cons he (.nil _)))
  exact .alternatives_head ((Setting.Settles.seq hrow).map (applyOperator_int op _ _)) _

/-- A term without an operator behind it. -/
theorem expression_term (ht : S.Settles term pos (some (i, v))) (h : S.src.RestAt i rest)
    (hrest : ∀ op : Operator, ¬ op.text <+: rest) :
    S.Settles expression pos (some (i, v)) := by
  have hrow : S.Row [term] pos [v] i := .cons ht (.nil i)
  have hbinary : S.Settles binary pos none :=
    (Setting.Settles.seq_none hrow (operator_none h hrest) [.lazy 0]).map_none _
  exact .alternatives (List.forall_mem_singleton.mpr hbinary) ht []

/-- A term with an operator behind it and no expression behind that. The operator is not
read. -/
theorem expression_cut (ht : S.Settles term pos (some (i, v))) (op : Operator)
    (h : S.src.RestAt i (op.text ++ rest))
    (he : S.Settles (.lazy 0) (i + op.text.length) none) :
    S.Settles expression pos (some (i, v)) := by
  have hrow : S.Row [term, .literals ["+", "-"]] pos [v, .text op.text] (i + op.text.length) :=
    .cons ht (.cons (operator_some op h) (.nil _))
  have hbinary : S.Settles binary pos none :=
    (Setting.Settles.seq_none hrow he []).map_none _
  exact .alternatives (List.forall_mem_singleton.mpr hbinary) ht []

/-- Where there is no term, there is no expression. -/
theorem expression_none (ht : S.Settles term pos none) : S.Settles expression pos none := by
  have hbinary : S.Settles binary pos none :=
    (Setting.Settles.seq_none (.nil pos) ht _).map_none _
  exact .alternatives_none
    (List.forall_mem_cons.mpr ⟨hbinary, List.forall_mem_singleton.mpr ht⟩)

end

/-! ### Sentences are read -/

/-- Behind an expression there is nothing left, or a closing parenthesis. -/
def Closes (rest : Text) : Prop := ∀ c, rest.head? = some c → c = 41

theorem closes_nil : Closes [] := fun _ h => nomatch h

theorem closes_parenthesis (rest : Text) : Closes (")" ++ rest) := by
  rintro c ⟨⟩
  rfl

theorem Closes.notLedBy (h : Closes rest) : Text.NotLedBy Charset.decimal rest := by
  intro c hc
  rw [h c hc]
  decide

theorem Closes.no_operator (h : Closes rest) (op : Operator) : ¬ op.text <+: rest := by
  rintro ⟨tail, rfl⟩
  cases op with
  | plus => exact absurd (h 43 rfl) (by decide)
  | minus => exact absurd (h 45 rfl) (by decide)

/-- No number goes on with an operator. -/
theorem Operator.notLedBy (op : Operator) (rest : Text) :
    Text.NotLedBy Charset.decimal (op.text ++ rest) := by
  cases op with
  | plus => exact Text.notLedBy_cons (by decide)
  | minus => exact Text.notLedBy_cons (by decide)

mutual

/-- **A term is read**, if no digit follows. -/
theorem settles_term (hsrc : src.length < Text.offsetLimit) (t : Term) {depth pos : Nat}
    {rest : Text} (hdepth : t.text.length ≤ depth) (h : src.RestAt pos (t.text ++ rest))
    (hrest : Text.NotLedBy Charset.decimal rest) :
    (setting src rounds depth).Settles term pos
      (some (pos + t.text.length, .int t.value)) := by
  match t with
  | .number d =>
      have hnumber := number_some (S := setting src rounds depth) hsrc d h hrest
      exact .alternatives_head hnumber _
  | .parens e =>
      rw [Term.length_parens] at hdepth
      obtain ⟨depth, rfl⟩ := Nat.exists_eq_succ_of_ne_zero (by omega : depth ≠ 0)
      have hopen := h
      rw [Term.parens_append] at hopen
      have hexpression : (setting src rounds depth).Settles expression (pos + 1) _ :=
        settles_expression hsrc e (by omega) hopen.advance (closes_parenthesis rest)
      have hnumber := number_none (S := setting src rounds (depth + 1)) hsrc hopen
        (notLedBy_open _)
      exact .alternatives (List.forall_mem_singleton.mpr hnumber)
        (parens_some e h (settles_lazy hexpression)) []

/-- **An expression is read**, if nothing or a closing parenthesis follows. -/
theorem settles_expression (hsrc : src.length < Text.offsetLimit) (e : Expression)
    {depth pos : Nat} {rest : Text} (hdepth : e.text.length ≤ depth)
    (h : src.RestAt pos (e.text ++ rest)) (hrest : Closes rest) :
    (setting src rounds depth).Settles expression pos
      (some (pos + e.text.length, .int e.value)) := by
  match e with
  | .term t =>
      have hterm := settles_term hsrc t hdepth h hrest.notLedBy
      exact expression_term hterm h.advance hrest.no_operator
  | .binary t op e =>
      have hop := op.length_text
      rw [Expression.length_binary] at hdepth
      obtain ⟨depth, rfl⟩ := Nat.exists_eq_succ_of_ne_zero (by omega : depth ≠ 0)
      have hparts := h
      rw [Expression.binary_append] at hparts
      -- the term ends where the operator stands, since no number goes on with one
      have hterm : (setting src rounds (depth + 1)).Settles term pos _ :=
        settles_term hsrc t (by omega) hparts (op.notLedBy _)
      have hexpression : (setting src rounds depth).Settles expression _ _ :=
        settles_expression hsrc e (by omega) hparts.advance.advance hrest
      exact expression_binary t op e h hterm (settles_lazy hexpression)

end

/-! ### Nothing else is read -/

/-- A parser fails at an offset, or what it matches there is a sentence, and gives its
value. -/
def Reads {α : Type} (S : Setting) (p : Parser) (text : α → Text) (value : α → Int) (pos : Nat)
    (rest : Text) : Prop :=
  S.Settles p pos none ∨ ∃ a tail, rest = text a ++ tail
    ∧ S.Settles p pos (some (pos + (text a).length, .int (value a)))

theorem reads_number (hsrc : S.src.length < Text.offsetLimit) (h : S.src.RestAt pos rest) :
    Reads S number Digits.text Digits.value pos rest := by
  obtain ⟨w, tail, rfl, hw, htail⟩ := Text.exists_notLedBy Charset.decimal rest
  by_cases hne : w = []
  · subst hne
    exact .inl (number_none hsrc h htail)
  · exact .inr ⟨⟨w, hne, hw⟩, tail, rfl, number_some hsrc ⟨w, hne, hw⟩ h htail⟩

section

variable (hlazy : ∀ i tail, S.src.RestAt i tail → tail.length < rest.length →
    Reads S (.lazy 0) Expression.text Expression.value i tail)
  (h : S.src.RestAt pos rest)
include hlazy h

theorem reads_parens :
    Reads S parens (fun e => (Term.parens e).text) Expression.value pos rest := by
  by_cases hopen : "(" <+: rest
  · obtain ⟨tail, rfl⟩ := hopen
    rcases hlazy (pos + 1) tail h.advance (Nat.lt_succ_self _) with he | ⟨e, tail, rfl, he⟩
    · exact .inl (.skip_none_left (.andThen_none_right (.literal h) he) _)
    by_cases hclose : ")" <+: tail
    · obtain ⟨tail, rfl⟩ := hclose
      rw [← Term.parens_append] at h
      exact .inr ⟨e, tail, (Term.parens_append e tail).symm, parens_some e h he⟩
    · exact .inl (.skip_none_right (.andThen (.literal h) he)
        (.literal_none h.advance.advance hclose))
  · exact .inl (.skip_none_left (.andThen_none_left (.literal_none h hopen) _) _)

variable (hsrc : S.src.length < Text.offsetLimit)
include hsrc

/-- What a term matches is one, if this holds of the expression in parentheses. -/
theorem reads_term : Reads S term Term.text Term.value pos rest := by
  rcases reads_number hsrc h with hnumber | ⟨d, tail, rfl, hnumber⟩
  · have hfirst : ∀ p ∈ [number], S.Settles p pos none := List.forall_mem_singleton.mpr hnumber
    rcases reads_parens hlazy h with hparens | ⟨e, tail, rfl, hparens⟩
    · exact .inl (.alternatives_none (List.forall_mem_append.mpr
        ⟨hfirst, List.forall_mem_singleton.mpr hparens⟩))
    · exact .inr ⟨.parens e, tail, rfl, .alternatives hfirst hparens []⟩
  · exact .inr ⟨.number d, tail, rfl, .alternatives_head hnumber _⟩

/-- What an expression matches is one, if this holds of the expressions within. -/
theorem reads_expression : Reads S expression Expression.text Expression.value pos rest := by
  rcases reads_term hlazy h hsrc with hterm | ⟨t, tail, rfl, hterm⟩
  · exact .inl (expression_none hterm)
  by_cases hop : ∃ op : Operator, op.text <+: tail
  · obtain ⟨op, tail, rfl⟩ := hop
    have hlength : tail.length < (t.text ++ (op.text ++ tail)).length := by
      rw [List.length_append, List.length_append, op.length_text]
      omega
    rcases hlazy _ tail h.advance.advance hlength with he | ⟨e, tail, rfl, he⟩
    · exact .inr ⟨.term t, op.text ++ tail, rfl, expression_cut hterm op h.advance he⟩
    · rw [← Expression.binary_append] at h ⊢
      exact .inr ⟨.binary t op e, tail, rfl, expression_binary t op e h hterm he⟩
  · have hnone : ∀ op : Operator, ¬ op.text <+: tail := fun op hp => hop ⟨op, hp⟩
    exact .inr ⟨.term t, tail, rfl, expression_term hterm h.advance hnone⟩

end

/-- **What the grammar matches is an expression.** -/
theorem reads_lazy (hsrc : src.length < Text.offsetLimit) (hdepth : rest.length < depth)
    (h : src.RestAt pos rest) :
    Reads (setting src rounds depth) (.lazy 0) Expression.text Expression.value pos rest := by
  induction depth generalizing pos rest with
  | zero => exact absurd hdepth (Nat.not_lt_zero _)
  | succ depth ih =>
      have hexpression : Reads (setting src rounds depth) expression _ _ pos rest :=
        reads_expression (fun i tail hi htail => ih (by omega) hi) h hsrc
      rcases hexpression with hnone | ⟨e, tail, hrest, hsome⟩
      · exact .inl (settles_lazy hnone)
      · exact .inr ⟨e, tail, hrest, settles_lazy hsome⟩

end Arithmetic

namespace Store

open Arithmetic

/-- **Arithmetic.** A text that is an expression is parsed to its value, however large and
however deeply nested it is, and every other text is a failure. No text raises a fault. This
holds wherever the limits admit a lazy parser within another for each character, and in
every store that the grammar has become. The text must not be longer than the offsets at
which a pattern can be started. -/
theorem parse_arithmetic (src : Text) (hsrc : src.length < Text.offsetLimit) {limits : Limits}
    (hdepth : src.length < limits.depth) {s : Store} (hs : arithmetic.Later s) :
    (∀ e : Expression, e.text = src →
        ((Parser.lazy 0).parse limits src).outcome s = .ok (.value (.int e.value)))
      ∧ ((¬ ∃ e : Expression, e.text = src) →
        ∃ f, ((Parser.lazy 0).parse limits src).outcome s = .ok (.failure f)) := by
  refine ⟨?_, fun hnone => ?_⟩
  · rintro e rfl
    obtain ⟨depth, rounds⟩ := limits
    obtain ⟨depth, rfl⟩ := Nat.exists_eq_succ_of_ne_zero (Nat.ne_zero_of_lt hdepth)
    have hstart : e.text.RestAt 0 (e.text ++ []) := by
      rw [List.append_nil]
      exact .start _
    have hlazy : (setting e.text rounds (depth + 1)).Settles (.lazy 0) 0 _ :=
      settles_lazy (settles_expression hsrc e (Nat.le_of_lt_succ hdepth) hstart closes_nil)
    rw [Nat.zero_add] at hlazy
    obtain ⟨t, -, hparse⟩ := hlazy.exec_parse hs
    exact congrArg Prod.fst hparse
  · have hreads : Reads (setting src limits.rounds limits.depth) (.lazy 0) _ _ 0 src :=
      reads_lazy hsrc hdepth (.start src)
    have hend : (setting src limits.rounds limits.depth).Settles ((Parser.lazy 0).skip .eof) 0
        none := by
      rcases hreads with hlazy | ⟨e, tail, rfl, hlazy⟩
      · exact .skip_none_left hlazy _
      -- what is matched is a sentence, so it is not the whole text
      have htail : tail ≠ [] := fun h => hnone ⟨e, by rw [h, List.append_nil]⟩
      obtain ⟨c, tail, rfl⟩ := List.exists_cons_of_ne_nil htail
      exact .skip_none_right hlazy (.eof_none (Text.RestAt.start _).advance)
    obtain ⟨f, t, hparse⟩ := hend.exec_parse_none hs
    exact ⟨f, congrArg Prod.fst hparse⟩

/-- A difference of which the second operand is one, and the empty text, which is no
expression, after another parse. -/
theorem parse_arithmetic_grouped :
    let src : Text := "10-(4-1)"
    let limits : Limits := ⟨9, 0⟩
    let s := ((Parser.lazy 0).parse limits "1+(2+").after arithmetic
    src.length < Text.offsetLimit ∧ src.length < limits.depth ∧ arithmetic.Later s
      ∧ ((Parser.lazy 0).parse limits src).outcome s = .ok (.value (.int 7))
      ∧ ∃ f, ((Parser.lazy 0).parse limits []).outcome s = .ok (.failure f) := by
  intro src limits s
  have hs : arithmetic.Later s := .parse .start _ _ _
  have hsrc : (src.length : Int) < Text.offsetLimit := by decide
  have hdepth : src.length < limits.depth := by decide
  let ten : Digits := ⟨"10", by decide, by decide⟩
  let four : Digits := ⟨"4", by decide, by decide⟩
  let one : Digits := ⟨"1", by decide, by decide⟩
  let inner : Expression := .binary (.number four) .minus (.term (.number one))
  let e : Expression := .binary (.number ten) .minus (.term (.parens inner))
  have hparse := (parse_arithmetic src hsrc hdepth hs).1 e (by decide)
  have hshort : ([] : Text).length < limits.depth := by decide
  have hempty := (parse_arithmetic [] (by decide) hshort hs).2 fun ⟨e, he⟩ => e.text_ne_nil he
  exact ⟨hsrc, hdepth, hs, hparse, hempty⟩

end Store

end Furthest
