/-
Spaces on one line.

The one-line printer decides at every item by one flag whether a space comes before it.  From
any state it writes the items of whatever it prints, joined by single spaces and kept apart from
what stands on the line already, and then the flag is set; where there is nothing to print it
stays as it was.  So the text of a tree does not depend on where it is written.  The tokens of a
source do not start or end with a blank character, and then no part of a tree does, nor what
stands between the parentheses of a list.
-/
import Sexpr.Proofs.Parsing.Reading
import Sexpr.Proofs.Printing.OneLine
import Sexpr.Proofs.Printing.Walks

namespace Sexpr

open Text

namespace OneLine

/-- Whether printing `a` writes `items`, whatever has been written before. -/
def Writes {α : Type} [Printable α] (a : α) (items : List String) : Prop :=
  ∀ s : OneLine, (Printable.print printer a).run s =
    ((), if items = [] then s else
      { text := (if s.needsSpace then s.text ++ " " else s.text) ++ " ".intercalate items
        needsSpace := true })

theorem writes_iff {α : Type} [Printable α] {a : α} {items : List String} :
    Writes a items ↔ ∀ s : OneLine, (Printable.print printer a).run s = ((), s.write items) := by
  cases items <;> rfl

theorem write_append (s : OneLine) (items items' : List String) :
    (s.write items).write items' = s.write (items ++ items') := by
  induction items generalizing s with
  | nil => rfl
  | cons i is ih => rw [← write_cons, ih, write_cons, List.cons_append]

theorem writes_token (t : Token) : Writes t [t.text] := by
  refine writes_iff.2 fun s => ?_
  show ((), s.token t) = ((), s.write [t.text])
  rw [token, write, String.intercalate_singleton]

theorem writes_sexpr (x : SExpr) : Writes x [x.inline] := writes_iff.2 (run_print x)

theorem writes_sequence (q : Sequence) : Writes q (q.items.map SExpr.inline) := by
  rw [← SExpr.inlineAll_eq_map]
  exact writes_iff.2 (run_printAll q.items)

theorem writes_program (p : Program) : Writes p (p.exprs.map SExpr.inline) := by
  rw [← SExpr.inlineAll_eq_map]
  exact writes_iff.2 (run_printAll p.exprs)

/-- A list of values is written value by value. -/
theorem writes_list {α : Type} [Printable α] {f : α → List String} {as : List α}
    (h : ∀ a ∈ as, Writes a (f a)) : Writes as (as.flatMap f) := by
  refine writes_iff.2 ?_
  induction as with
  | nil => exact fun s => rfl
  | cons a as ih =>
      intro s
      obtain ⟨ha, has⟩ := List.forall_mem_cons.1 h
      have hrun : (Printable.print printer (a :: as)).run s =
          (Printable.print printer as).run ((Printable.print printer a).run s).2 := rfl
      rw [hrun, writes_iff.1 ha, ih has, write_append, List.flatMap_cons]

/-- What a line that starts with `a` holds. -/
theorem Writes.oneLine {α : Type} [Printable α] {a : α} {items : List String}
    (h : Writes a items) : oneLine a = " ".intercalate items := by
  rw [Sexpr.oneLine, writes_iff.1 h, write_text rfl]
  exact String.empty_append

end OneLine

namespace Node

/-- The items of a node on one line. -/
def inlines : Node → List String
  | program p => p.exprs.map SExpr.inline
  | sexpr x => [x.inline]
  | list opening items closing => [(SExpr.list opening items closing).inline]
  | seq s => s.items.map SExpr.inline
  | atom t => [t.text]
  | leaf t => [t.text]

theorem writes_inlines (n : Node) : OneLine.Writes n n.inlines := by
  cases n with
  | program p => exact OneLine.writes_program p
  | sexpr x => exact OneLine.writes_sexpr x
  | list o xs c => exact OneLine.writes_sexpr (.list o xs c)
  | seq s => exact OneLine.writes_sequence s
  | atom t => exact OneLine.writes_token t
  | leaf t => exact OneLine.writes_token t

end Node

/-! ## Blank characters at the ends -/

/-- Whether a text starts and ends without a blank character. -/
def Trimmed (s : String) : Prop :=
  (∀ c ∈ s.toList.head?, isBlank c = false) ∧ ∀ c ∈ s.toList.getLast?, isBlank c = false

/-- Whether a text has a first and a last character, neither of them blank. -/
def Solid (s : String) : Prop := s.toList ≠ [] ∧ Trimmed s

theorem solid_of_bounds {s : String} {c d : Char} {r q : List Char} (hfirst : s.toList = c :: r)
    (hlast : s.toList = q ++ [d]) (hc : isBlank c = false) (hd : isBlank d = false) : Solid s := by
  refine ⟨?_, ?_, ?_⟩
  · rw [hfirst]
    exact List.cons_ne_nil c r
  · rw [hfirst]
    rintro e ⟨⟩
    exact hc
  · rw [hlast, List.getLast?_concat]
    rintro e ⟨⟩
    exact hd

theorem Solid.append {a c : String} (ha : Solid a) (hc : Solid c) (b : String) :
    Solid (a ++ b ++ c) := by
  obtain ⟨hne, hfirst, -⟩ := ha
  obtain ⟨hne', -, hlast⟩ := hc
  rw [Solid, Trimmed, String.toList_append, String.toList_append,
    List.getLast?_append_of_ne_nil _ hne', List.append_assoc, List.head?_append_of_ne_nil _ hne]
  exact ⟨List.append_ne_nil_of_left_ne_nil hne _, hfirst, hlast⟩

theorem solid_intercalate (sep : String) {item : String} {items : List String}
    (h : ∀ s ∈ item :: items, Solid s) : Solid (sep.intercalate (item :: items)) := by
  induction items generalizing item with
  | nil =>
      rw [String.intercalate_singleton]
      exact h item List.mem_cons_self
  | cons i is ih =>
      obtain ⟨hitem, hitems⟩ := List.forall_mem_cons.1 h
      rw [String.intercalate_cons_cons]
      exact hitem.append (ih hitems) sep

theorem trimmed_intercalate (sep : String) {items : List String} (h : ∀ s ∈ items, Solid s) :
    Trimmed (sep.intercalate items) := by
  cases items with
  | nil =>
      rw [String.intercalate_nil]
      exact ⟨nofun, nofun⟩
  | cons i is => exact (solid_intercalate sep h).2

namespace Rule

variable {c d : Char} {q r : List Char} {kind : Kind}

/-- A word that is taken as a whole ends in no blank character, because without that character
as much of it would be taken. -/
theorem isBlank_last_of_word (hw : isWordChar c = true)
    (h : first (c :: (q ++ [d])) = some (kind, (c :: (q ++ [d])).length)) : isBlank d = false := by
  rw [Bool.eq_false_iff]
  intro hd
  have hboundary : Boundary (c :: q) [d] := Boundary.of_head (isWordChar_of_blank hd) []
  rw [Pattern.first_append_of_word hw hboundary] at h
  have hbound := (first_bounds h).2
  simp only [List.length_cons, List.length_append, List.length_nil] at hbound
  omega

/-- A string that is taken as a whole ends in a quote. -/
theorem last_of_quote (h : first ('"' :: r) = some (kind, ('"' :: r).length)) :
    ∃ w, r = w ++ ['"'] := by
  rw [first_of_quote] at h
  obtain ⟨n, hn, hpair⟩ := Option.map_eq_some_iff.1 h
  obtain rfl : n = r.length := Nat.succ.inj (Prod.mk.inj hpair).2
  obtain ⟨w, -, htake⟩ := Pattern.closing_sound hn
  rw [List.take_length] at htake
  exact ⟨w, htake⟩

/-- What is taken as a whole ends in no blank character. -/
theorem isBlank_last (hc : isBlank c = false)
    (h : first (c :: r) = some (kind, (c :: r).length)) :
    ∃ q d, c :: r = q ++ [d] ∧ isBlank d = false := by
  rcases start_cases hc with hp | rfl | hw
  · rw [first_of_parenthesis hp] at h
    have hlength := (Prod.mk.inj (Option.some.inj h)).2
    obtain rfl : r = [] := List.length_eq_zero_iff.1 (Nat.succ.inj hlength).symm
    exact ⟨[], c, rfl, hc⟩
  · obtain ⟨w, rfl⟩ := last_of_quote h
    exact ⟨'"' :: w, '"', rfl, by decide⟩
  · rcases List.eq_nil_or_concat' r with rfl | ⟨q, d, rfl⟩
    · exact ⟨[], c, rfl, hc⟩
    · exact ⟨c :: q, d, rfl, isBlank_last_of_word hw h⟩

end Rule

theorem Token.Lexed.solid {t : Token} (h : t.Lexed) : Solid t.text := by
  obtain ⟨c, r, htext, hc, hfirst⟩ := h.first
  obtain ⟨q, d, hlast, hd⟩ := Rule.isBlank_last hc hfirst
  exact solid_of_bounds htext (htext.trans hlast) hc hd

namespace SExpr

theorem solid_inline {x : SExpr} (h : ∀ t ∈ x.tokens, t.Lexed) : Solid x.inline := by
  cases x with
  | atom t => exact (h t List.mem_cons_self).solid
  | list o xs c =>
      let body := (" ".intercalate (inlineAll xs)).toList
      have htext : (list o xs c).inline.toList = '(' :: (body ++ [')']) := by
        rw [inline, String.toList_append, String.toList_append]
        rfl
      exact solid_of_bounds (q := '(' :: body) htext htext (by decide) (by decide)

theorem solid_of_mem_map {xs : List SExpr} (h : ∀ t ∈ tokensOf xs, t.Lexed) :
    ∀ s ∈ xs.map inline, Solid s := by
  intro s hs
  obtain ⟨x, hx, rfl⟩ := List.mem_map.1 hs
  exact solid_inline fun t ht => h t (mem_tokensOf hx ht)

end SExpr

namespace Node

theorem trimmed_inlines {n : Node} (h : ∀ t ∈ n.tokens, t.Lexed) :
    Trimmed (" ".intercalate n.inlines) := by
  have hsingle {x : String} (hx : Solid x) : ∀ s ∈ [x], Solid s := by
    intro s hs
    rwa [List.mem_singleton.1 hs]
  cases n with
  | program p => exact trimmed_intercalate _ (SExpr.solid_of_mem_map h)
  | sexpr x => exact trimmed_intercalate _ (hsingle (SExpr.solid_inline h))
  | list o xs c =>
      exact trimmed_intercalate _ (hsingle (SExpr.solid_inline (x := .list o xs c) h))
  | seq s => exact trimmed_intercalate _ (SExpr.solid_of_mem_map h)
  | atom t => exact trimmed_intercalate _ (hsingle (h t List.mem_cons_self).solid)
  | leaf t => exact trimmed_intercalate _ (hsingle (h t List.mem_cons_self).solid)

end Node

open OneLine in
/-- From every state the one-line printer writes the items of a value, joined by single spaces,
behind one space if it needs one, and needs one afterwards; where there are no items it changes
nothing.  The items of a tree are the tokens of its atoms and, between parentheses, those of its
lists.  So the text of a value alone on a line is the same.  The text of a program that was read,
of every node of it, and of what stands between the parentheses of its lists, neither starts
nor ends with a blank character. -/
theorem one_line_spacing :
    (∀ p : Program, Writes p (p.exprs.map SExpr.inline)) ∧
    (∀ s : Sequence, Writes s (s.items.map SExpr.inline)) ∧
    (∀ x : SExpr, Writes x [x.inline]) ∧
    (∀ ts : List Token, Writes ts (ts.map Token.text)) ∧
    (∀ n : Node, Writes n n.inlines) ∧
    (∀ (α : Type) [Printable α] (f : α → List String) (as : List α),
      (∀ a ∈ as, Writes a (f a)) → Writes as (as.flatMap f)) ∧
    (∀ t, (SExpr.atom t).inline = t.text) ∧
    (∀ o xs c, (SExpr.list o xs c).inline = "(" ++ " ".intercalate (xs.map SExpr.inline) ++ ")") ∧
    (∀ (α : Type) [Printable α] (a : α) (items : List String), Writes a items →
      oneLine a = " ".intercalate items) ∧
    ∀ (source : String) (p : Program), Program.ofSource source = .ok p →
      ∀ entry ∈ (Node.program p).preorder 0, Trimmed (oneLine entry.2) ∧
        ∀ o xs c, entry.2 = .list o xs c → Trimmed (" ".intercalate (xs.map SExpr.inline)) := by
  refine ⟨writes_program, writes_sequence, writes_sexpr, ?_, Node.writes_inlines,
    fun _ _ _ _ => writes_list, fun _ => rfl, ?_, fun _ _ _ _ h => h.oneLine, ?_⟩
  · intro ts
    rw [← List.flatMap_pure_eq_map]
    exact writes_list fun t _ => writes_token t
  · intro o xs c
    rw [SExpr.inline, SExpr.inlineAll_eq_map]
  · intro source p hp entry hentry
    have hlexed : ∀ t ∈ entry.2.tokens, t.Lexed := fun t ht =>
      (Program.shaped_of_ofSource hp).2 t (Node.mem_tokens_of_mem_preorder hentry ht)
    refine ⟨?_, ?_⟩
    · rw [entry.2.writes_inlines.oneLine]
      exact Node.trimmed_inlines hlexed
    · rintro o xs c hlist
      rw [hlist] at hlexed
      refine trimmed_intercalate _ (SExpr.solid_of_mem_map fun t ht => hlexed t ?_)
      exact List.mem_cons_of_mem _ (List.mem_append_left _ ht)

/-- A list that starts with an empty one, and a string that looks like the start of a list, behind
a text that needs a space. -/
theorem one_line_spacing_at_empty_list :
    ∃ p, Program.ofSource " ( ()a\n) \"( \" " = .ok p ∧
      (Printable.print OneLine.printer p).run { text := "x", needsSpace := true } =
        ((), { text := "x (() a) \"( \"", needsSpace := true }) ∧
      oneLine p = "(() a) \"( \"" ∧ Trimmed (oneLine p) := by
  let o (i : Nat) : Token := ⟨.literal, "(", ⟨i, i + 1⟩⟩
  let c (i : Nat) : Token := ⟨.literal, ")", ⟨i, i + 1⟩⟩
  let inner : SExpr := .list (o 3) [] (c 4)
  let p : Program :=
    ⟨[.list (o 1) [inner, .atom ⟨.id, "a", ⟨5, 6⟩⟩] (c 7), .atom ⟨.string, "\"( \"", ⟨9, 13⟩⟩]⟩
  have hp : Program.ofSource " ( ()a\n) \"( \" " = .ok p := by decide +kernel
  obtain ⟨hprogram, -, -, -, -, -, -, -, hline, htrimmed⟩ := one_line_spacing
  refine ⟨p, hp, hprogram p _, hline _ p _ (hprogram p), ?_⟩
  have hself : (0, Node.program p) ∈ (Node.program p).preorder 0 := by
    rw [Node.preorder_eq]
    exact List.mem_cons_self
  exact (htrimmed _ p hp _ hself).1

end Sexpr
