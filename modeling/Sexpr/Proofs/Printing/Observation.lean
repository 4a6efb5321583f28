/-
Places never matter.

Kinds and texts of tokens decide how the tokens parse and what the answer is, up to places.
All that can be observed of a program but the places themselves is then the same as well:
its texts on one line and at every width, its dump, what a printer is told, and the values
of its tokens.  Sources may therefore be spaced in any way around the same tokens.
-/
import Sexpr.Dump
import Sexpr.Value
import Sexpr.Proofs.Parsing.Reading
import Sexpr.Proofs.Printing.NormalForm
import Sexpr.Proofs.Printing.Trace

namespace Sexpr

/-! ## Dumps -/

namespace Node

def unplaced : Node → Node
  | program p => program p.unplaced
  | sexpr x => sexpr x.unplaced
  | list opening items closing =>
    list opening.unplaced (SExpr.mapAll Token.unplaced items) closing.unplaced
  | seq s => seq { head := s.head.unplaced, tail := SExpr.mapAll Token.unplaced s.tail }
  | atom t => atom t.unplaced
  | leaf t => leaf t.unplaced

theorem children_unplaced (n : Node) : n.unplaced.children = n.children.map unplaced := by
  match n with
  | program p =>
      show (SExpr.mapAll Token.unplaced p.exprs).map sexpr = (p.exprs.map sexpr).map unplaced
      rw [SExpr.mapAll_eq_map, List.map_map, List.map_map]
      rfl
  | sexpr (.atom t) => rfl
  | sexpr (.list o xs c) => rfl
  | list o [] c => rfl
  | list o (x :: xs) c => rfl
  | seq ⟨x, []⟩ => rfl
  | seq ⟨x, y :: ys⟩ => rfl
  | atom t => rfl
  | leaf t => rfl

theorem preorder_unplaced (depth : Nat) (n : Node) :
    n.unplaced.preorder depth = (n.preorder depth).map fun entry => (entry.1, entry.2.unplaced) := by
  rw [preorder_eq, preorder_eq, children_unplaced, List.map_cons, List.flatMap_map,
    List.map_flatMap]
  congr 1
  refine List.flatMap_congr ?_
  intro m hm
  exact preorder_unplaced (depth + 1) m
termination_by n.count
decreasing_by exact count_lt_of_mem_children hm

theorem dumpLine_unplaced (depth : Nat) (n : Node) : dumpLine depth n.unplaced = dumpLine depth n := by
  cases n <;> rfl

theorem dump_unplaced (n : Node) : n.unplaced.dump = n.dump := by
  rw [dump, dump, preorder_unplaced, List.map_map]
  exact congrArg String.join (List.map_congr_left fun entry _ => dumpLine_unplaced entry.1 entry.2)

end Node

/-! ## Traces -/

def Event.unplaced : Event → Event
  | token t => token t.unplaced
  | startList => startList
  | endList => endList

namespace SExpr

mutual
theorem events_unplaced (x : SExpr) :
    (x.mapTokens Token.unplaced).events = x.events.map Event.unplaced := by
  cases x with
  | atom t => rfl
  | list o xs c =>
      rw [mapTokens, events, events, eventsOf_unplaced xs, List.map_cons, List.map_append]
      rfl

theorem eventsOf_unplaced (xs : List SExpr) :
    eventsOf (mapAll Token.unplaced xs) = (eventsOf xs).map Event.unplaced := by
  cases xs with
  | nil => rfl
  | cons x xs =>
      rw [mapAll, eventsOf, eventsOf, events_unplaced x, eventsOf_unplaced xs, List.map_append]
end

end SExpr

/-! ## Answers -/

namespace Program

/-- Whether programs can only be told apart by the places of their tokens. -/
structure Alike (p q : Program) : Prop where
  unplaced : p.unplaced = q.unplaced
  oneLine : Sexpr.oneLine p = Sexpr.oneLine q
  pretty : ∀ width, Sexpr.pretty width p = Sexpr.pretty width q
  dump : (Node.program p).dump = (Node.program q).dump
  printed : ∀ {m : Type → Type} [Monad m] (P : Printer m), P.Placeless →
    Printable.print P p = Printable.print P q
  recorded : ∀ limit,
    (Event.trace limit p).1.map Event.unplaced = (Event.trace limit q).1.map Event.unplaced
  refused : ∀ limit,
    (Event.trace limit p).2.map Event.unplaced = (Event.trace limit q).2.map Event.unplaced
  values : p.tokens.map Value.ofToken = q.tokens.map Value.ofToken

theorem Alike.of_unplaced {p q : Program} (h : p.unplaced = q.unplaced) : p.Alike q := by
  have hexprs : SExpr.mapAll Token.unplaced p.exprs = SExpr.mapAll Token.unplaced q.exprs :=
    (Program.mk.inj h)
  have hevents : (SExpr.eventsOf p.exprs).map Event.unplaced =
      (SExpr.eventsOf q.exprs).map Event.unplaced := by
    rw [← SExpr.eventsOf_unplaced, ← SExpr.eventsOf_unplaced, hexprs]
  have htokens : p.tokens.map Token.unplaced = q.tokens.map Token.unplaced := by
    rw [tokens, tokens, ← SExpr.tokensOf_mapAll, ← SExpr.tokensOf_mapAll, hexprs]
  have hvalues (ts : List Token) :
      ts.map Value.ofToken = (ts.map Token.unplaced).map Value.ofToken := by
    rw [List.map_map]
    rfl
  exact
    { unplaced := h
      oneLine := oneLine_of_unplaced h
      pretty := pretty_of_unplaced h
      dump := by
        rw [← Node.dump_unplaced, ← Node.dump_unplaced (.program q)]
        exact congrArg (fun r => (Node.program r).dump) h
      printed := fun P hP => print_of_unplaced hP h
      recorded := fun limit => by
        rw [Event.trace_program, Event.trace_program, List.map_toArray, List.map_toArray,
          List.map_take, List.map_take, hevents]
      refused := fun limit => by
        rw [Event.trace_program, Event.trace_program, ← List.getElem?_map, ← List.getElem?_map,
          hevents]
      values := by rw [hvalues, htokens, ← hvalues] }

end Program

/-- Whether two parses give programs that are alike, or errors that differ in their places
only. -/
inductive AnswersAlike : Except ParseError Program → Except ParseError Program → Prop where
  | programs {p q} : p.Alike q → AnswersAlike (.ok p) (.ok q)
  | errors {e f : ParseError} : e.found = f.found → e.kind = f.kind → e.expected = f.expected →
      AnswersAlike (.error e) (.error f)

theorem parse_unplaced (ts : List Token) :
    parse (ts.map Token.unplaced) =
      ((parse ts).mapError (·.mapSpan fun _ => ⟨0, 0⟩)).map Program.unplaced := by
  have hshaped : (Program.mk []).Shaped := SExpr.allShaped_nil
  by_cases hne : ts = []
  · have hnil : parse [] = .ok { exprs := [] } := Parser.parse_tokens hshaped nofun [] nofun
    rw [hne, List.map_nil, hnil]
    rfl
  · exact parse_append_mapSpan (p := ⟨[]⟩) (g := fun _ => ⟨0, 0⟩) hshaped nofun (fun _ => rfl) hne

/-- The tokens of a row without their places are their labels. -/
theorem map_unplaced_of_labels {ts us : List Token} (h : ts.map Token.label = us.map Token.label) :
    ts.map Token.unplaced = us.map Token.unplaced := by
  have hlabels (vs : List Token) :
      vs.map Token.unplaced = (vs.map Token.label).map fun l => ⟨l.1, l.2, ⟨0, 0⟩⟩ := by
    rw [List.map_map]
    rfl
  rw [hlabels, h, ← hlabels]

theorem answersAlike_of_labels {ts us : List Token} (h : ts.map Token.label = us.map Token.label) :
    AnswersAlike (parse ts) (parse us) := by
  have hparse := parse_unplaced ts
  rw [map_unplaced_of_labels h, parse_unplaced us] at hparse
  cases hts : parse ts with
  | ok p =>
      cases hus : parse us with
      | ok q =>
          rw [hts, hus] at hparse
          exact .programs (.of_unplaced (Except.ok.inj hparse).symm)
      | error f =>
          rw [hts, hus] at hparse
          exact nomatch hparse
  | error e =>
      cases hus : parse us with
      | ok q =>
          rw [hts, hus] at hparse
          exact nomatch hparse
      | error f =>
          rw [hts, hus] at hparse
          obtain ⟨hfound, hkind, hexpected, -⟩ := ParseError.mk.inj (Except.error.inj hparse)
          exact .errors hfound.symm hkind.symm hexpected.symm

def SourceError.unplaced (e : SourceError) : SourceError := e.mapSpan fun _ => ⟨0, 0⟩

/-- Whether two sources hold programs that are alike, or errors that differ in their places
only. -/
inductive ReadAlike (a b : String) : Prop where
  | programs {p q : Program} : Program.ofSource a = .ok p → Program.ofSource b = .ok q →
      p.Alike q → ReadAlike a b
  | errors {e f : SourceError} : Program.ofSource a = .error e → Program.ofSource b = .error f →
      e.unplaced = f.unplaced → ReadAlike a b

theorem readAlike_of_labels {a b : String} {ts us : List Token} (ha : tokenize a = .ok ts)
    (hb : tokenize b = .ok us) (h : ts.map Token.label = us.map Token.label) : ReadAlike a b := by
  have hofa := Program.ofSource_of_tokens ha
  have hofb := Program.ofSource_of_tokens hb
  have halike := answersAlike_of_labels h
  generalize parse ts = r at hofa halike
  generalize parse us = s at hofb halike
  cases halike with
  | programs hpq => exact .programs hofa hofb hpq
  | @errors e f hfound hkind hexpected =>
      refine .errors hofa hofb ?_
      show SourceError.syntactic ⟨e.found, e.kind, e.expected, ⟨0, 0⟩⟩ = _
      rw [hfound, hkind, hexpected]
      rfl

/-- The same text behind sources with the same tokens is read alike, also where it makes
both fail. -/
theorem readAlike_append {a b rest : String} {ts us : List Token} (ha : tokenize a = .ok ts)
    (hb : tokenize b = .ok us) (h : ts.map Token.label = us.map Token.label)
    (hra : Boundary a.toList rest.toList) (hrb : Boundary b.toList rest.toList) :
    ReadAlike (a ++ rest) (b ++ rest) := by
  have happenda := tokenize_append ha hra
  have happendb := tokenize_append hb hrb
  cases hrest : tokenize rest with
  | ok vs =>
      rw [hrest] at happenda happendb
      refine readAlike_of_labels happenda happendb ?_
      rw [List.map_append, List.map_append, h, List.map_map, List.map_map]
      rfl
  | error e =>
      rw [hrest] at happenda happendb
      refine .errors (Program.ofSource_of_lexError happenda)
        (Program.ofSource_of_lexError happendb) ?_
      cases e <;> rfl

/-- Tokens with the same kinds and texts are parsed alike wherever they stand.  So sources
with the same tokens are read alike, also where something behind these tokens makes both
fail, and the same tokens may be spaced in any way that keeps them apart. -/
theorem places_never_matter :
    (∀ ts us : List Token, ts.map Token.label = us.map Token.label →
      AnswersAlike (parse ts) (parse us)) ∧
    (∀ (a b : String) (ts us : List Token), tokenize a = .ok ts → tokenize b = .ok us →
      ts.map Token.label = us.map Token.label → ReadAlike a b ∧
        ∀ rest : String, Boundary a.toList rest.toList → Boundary b.toList rest.toList →
          ReadAlike (a ++ rest) (b ++ rest)) ∧
    ∀ (row row' : List (String × Token)) (last last' : String), LegalSpacing row last →
      LegalSpacing row' last' → (∀ p ∈ row, p.2.Lexable) → row.map (·.2) = row'.map (·.2) →
        ReadAlike (spaced row last) (spaced row' last') := by
  refine ⟨fun _ _ => answersAlike_of_labels, ?_, ?_⟩
  · intro a b ts us ha hb h
    exact ⟨readAlike_of_labels ha hb h, fun rest => readAlike_append ha hb h⟩
  · intro row row' last last' hrow hrow' hlexable htokens
    have hlexed : ∀ t ∈ row.map (·.2), t.Lexed := by
      intro t ht
      obtain ⟨p, hp, rfl⟩ := List.mem_map.1 ht
      exact Token.lexable_iff_lexed.1 (hlexable p hp)
    obtain ⟨ts, hts, hlabels⟩ :=
      (hrow.spells fun p hp => hlexed p.2 (List.mem_map_of_mem hp)).tokenize
    rw [htokens] at hlexed hlabels
    obtain ⟨us, hus, hlabels'⟩ :=
      (hrow'.spells fun p hp => hlexed p.2 (List.mem_map_of_mem hp)).tokenize
    exact readAlike_of_labels hts hus (hlabels.trans hlabels'.symm)

/-- Sources that fail at the same open string, and a list with and without gaps. -/
theorem places_never_matter_at_open_string :
    ReadAlike ("(é" ++ "\"x") ("( é\n" ++ "\"x") ∧ ReadAlike "(é)" " ( é )\n" := by
  have ha : tokenize "(é" = .ok [⟨.literal, "(", ⟨0, 1⟩⟩, ⟨.id, "é", ⟨1, 3⟩⟩] := by decide +kernel
  have hb : tokenize "( é\n" = .ok [⟨.literal, "(", ⟨0, 1⟩⟩, ⟨.id, "é", ⟨2, 4⟩⟩] := by decide +kernel
  have hquote (cs : List Char) : Boundary cs "\"x".toList :=
    Boundary.of_head Rule.isWordChar_quote _
  let items : List Token := [⟨.literal, "(", ⟨0, 1⟩⟩, ⟨.id, "é", ⟨1, 3⟩⟩, ⟨.literal, ")", ⟨3, 4⟩⟩]
  have hlist : tokenize "(é)" = .ok items := by decide +kernel
  constructor
  · exact (places_never_matter.2.1 _ _ _ _ ha hb rfl).2 "\"x" (hquote _) (hquote _)
  · refine places_never_matter.2.2 (["", "", ""].zip items) ([" ", " ", " "].zip items) "" "\n"
      (by decide) (by decide) ?_ rfl
    intro p hp
    exact Token.lexable_iff_lexed.2 (Token.lexed_of_tokenize hlist (List.of_mem_zip hp).2)

end Sexpr
