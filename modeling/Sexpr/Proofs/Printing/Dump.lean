/-
Dumps can be read back.

The text of a leaf stands in a dump as it was written, so a string brings its line feeds with
it, and may bring whole lines that look like lines of the dump.  From the left a dump is still
read in one way only.  The indentation ends at the first letter of a tag, the tag ends at a
space, and how much padding follows is known by then, none at all if the line is indented far
enough.  The text is one token, and for the lexer this token ends where the text does, because
no token runs on into the line feed behind it.  So a dump gives back the depth, the tag and the
text of every node, hence the tokens of a program, and by these the program.
-/
import Sexpr.Proofs.Printing.Observation
import Sexpr.Proofs.Printing.Walks

namespace Sexpr

/-! ## Parts of a line -/

section Parts

variable {a b x y : List Char} {c : Char}

/-- What stands before the first `c`, and what stands behind it. -/
theorem append_cons_inj (ha : c ∉ a) (hb : c ∉ b) (h : a ++ c :: x = b ++ c :: y) :
    a = b ∧ x = y := by
  rcases append_eq_append_cons h with ⟨r, rfl⟩ | ⟨r, rfl, hr⟩
  · exact absurd (List.mem_append_right b List.mem_cons_self) ha
  · cases r with
    | nil => exact ⟨(List.append_nil a).symm, (List.cons.inj hr).2⟩
    | cons d r =>
        obtain ⟨rfl, -⟩ := List.cons.inj hr
        exact absurd (List.mem_append_right a List.mem_cons_self) hb

theorem replicate_append_inj (hx : x.head? ≠ some c) (hy : y.head? ≠ some c) {m n : Nat}
    (h : List.replicate m c ++ x = List.replicate n c ++ y) : m = n ∧ x = y := by
  induction m generalizing n with
  | zero =>
      cases n with
      | zero => exact ⟨rfl, h⟩
      | succ n => exact absurd (congrArg List.head? h) hx
  | succ m ih =>
      cases n with
      | zero => exact absurd (congrArg List.head? h).symm hy
      | succ n =>
          obtain ⟨rfl, hrest⟩ := ih (List.cons.inj h).2
          exact ⟨rfl, hrest⟩

end Parts

namespace Tag

def all : List Tag :=
  [program, sexpr, list, seq, atom, token .id, token .int, token .real, token .string,
    token .literal, token .endMark]

theorem mem_all (t : Tag) : t ∈ all := by
  cases t with
  | token kind => cases kind <;> decide
  | _ => decide

theorem name_injective {t u : Tag} (h : t.name = u.name) : t = u := by
  have hall : ∀ t ∈ all, ∀ u ∈ all, t.name = u.name → t = u := by decide
  exact hall t t.mem_all u u.mem_all h

theorem space_not_mem_name (t : Tag) : ' ' ∉ t.name.toList := by
  have hall : ∀ t ∈ all, ' ' ∉ t.name.toList := by decide
  exact hall t t.mem_all

theorem head?_name_append (t : Tag) (r : List Char) : (t.name.toList ++ r).head? ≠ some ' ' := by
  have hall : ∀ t ∈ all, t.name.toList ≠ [] := by decide
  obtain ⟨c, cs, hname⟩ := List.exists_cons_of_ne_nil (hall t t.mem_all)
  intro h
  rw [hname] at h
  obtain rfl := Option.some.inj h
  exact t.space_not_mem_name (hname ▸ List.mem_cons_self)

def isToken : Tag → Bool
  | token _ => true
  | _ => false

end Tag

namespace Token

variable {t u : Token} {a b : List Char}

theorem Lexed.first_append (h : t.Lexed) (hb : Boundary t.text.toList b) :
    Rule.first (t.text.toList ++ b) = some (t.kind, t.text.toList.length) := by
  obtain ⟨c, r, htext, -, hfirst⟩ := h.first
  rw [htext] at hb ⊢
  exact Pattern.first_append hb hfirst

/-- A token can be told from what follows it past a boundary. -/
theorem Lexed.append_inj (ht : t.Lexed) (hu : u.Lexed) (ha : Boundary t.text.toList a)
    (hb : Boundary u.text.toList b) (h : t.text.toList ++ a = u.text.toList ++ b) :
    t.text = u.text ∧ a = b := by
  have hfirst := ht.first_append ha
  rw [h, hu.first_append hb] at hfirst
  have hlength : u.text.toList.length = t.text.toList.length :=
    (Prod.mk.inj (Option.some.inj hfirst)).2
  obtain ⟨htext, hrest⟩ := List.append_inj h hlength.symm
  exact ⟨String.toList_inj.1 htext, hrest⟩

end Token

namespace Node

variable {n m : Node} {depth depth' : Nat} {r s : List Char}

/-- Whether the text of a node, if it has one, is that of a token of the lexer. -/
def Legible : Node → Prop
  | leaf t => t.Lexed
  | _ => True

theorem isToken_tag (n : Node) : n.tag.isToken = n.isLeaf := by
  cases n <;> rfl

theorem text_of_not_isLeaf (h : n.isLeaf = false) : n.text = "" := by
  cases n with
  | leaf t => exact nomatch h
  | _ => rfl

theorem exists_leaf (h : n.isLeaf = true) : ∃ t, n = leaf t := by
  cases n with
  | leaf t => exact ⟨t, rfl⟩
  | _ => exact nomatch h

theorem Legible.text_append_inj (hn : n.Legible) (hm : m.Legible) (htag : n.tag = m.tag)
    (h : n.text.toList ++ '\n' :: r = m.text.toList ++ '\n' :: s) : n.text = m.text ∧ r = s := by
  have hbreak (cs rest : List Char) : Boundary cs ('\n' :: rest) :=
    Boundary.of_head (Rule.isWordChar_of_blank (by decide)) rest
  -- Nodes of one tag both have a text of their own, or neither has.
  have hleaf : n.isLeaf = m.isLeaf := by rw [← isToken_tag, htag, isToken_tag]
  cases hcase : n.isLeaf with
  | false =>
      rw [text_of_not_isLeaf hcase, text_of_not_isLeaf (hleaf ▸ hcase)] at h ⊢
      exact ⟨rfl, (List.cons.inj (List.append_cancel_left h)).2⟩
  | true =>
      obtain ⟨t, rfl⟩ := exists_leaf hcase
      obtain ⟨u, rfl⟩ := exists_leaf (hleaf ▸ hcase)
      obtain ⟨htext, hrest⟩ := Token.Lexed.append_inj hn hm (hbreak _ r) (hbreak _ s) h
      exact ⟨htext, (List.cons.inj hrest).2⟩

/-- How many spaces stand between the tag and the space before the text. -/
def padding (depth : Nat) (tag : Tag) : Nat := textColumn - 2 * depth - tag.name.length

theorem toList_dumpLine (depth : Nat) (n : Node) :
    (dumpLine depth n).toList = List.replicate (2 * depth) ' ' ++ (n.tag.name.toList ++
      ' ' :: (List.replicate (padding depth n.tag) ' ' ++ (n.text.toList ++ ['\n']))) := by
  have hspace (k : Nat) (cs : List Char) :
      List.replicate k ' ' ++ ' ' :: cs = ' ' :: (List.replicate k ' ' ++ cs) := by
    rw [← List.cons_append, ← List.replicate_succ, List.replicate_succ', List.append_assoc]
    rfl
  have htoList : (" " : String).toList = [' '] ∧ ("\n" : String).toList = ['\n'] := ⟨rfl, rfl⟩
  simp only [dumpLine, Text.pad, Text.spaces, String.toList_append, String.toList_ofList, htoList,
    List.append_assoc, List.cons_append, List.nil_append, hspace, padding]

/-- What a line of a dump shows of a node and its depth. -/
def entry (below : Nat × Node) : Nat × Tag × String := (below.1, below.2.tag, below.2.text)

/-- A line can be told from what follows it, even if the text runs over several lines. -/
theorem Legible.dumpLine_append_inj (hn : n.Legible) (hm : m.Legible)
    (h : (dumpLine depth n).toList ++ r = (dumpLine depth' m).toList ++ s) :
    entry (depth, n) = entry (depth', m) ∧ r = s := by
  simp only [toList_dumpLine, List.append_assoc, List.cons_append, List.nil_append] at h
  obtain ⟨hindent, h⟩ := replicate_append_inj (n.tag.head?_name_append _)
    (m.tag.head?_name_append _) h
  obtain ⟨hname, h⟩ := append_cons_inj n.tag.space_not_mem_name m.tag.space_not_mem_name h
  obtain rfl : depth = depth' := by omega
  have htag : n.tag = m.tag := Tag.name_injective (String.toList_inj.1 hname)
  -- Depth and tag are the same by now, and they decide the padding.
  rw [htag] at h
  obtain ⟨htext, hrest⟩ := hn.text_append_inj hm htag (List.append_cancel_left h)
  exact ⟨by rw [entry, entry, htag, htext], hrest⟩

/-! ## All lines -/

/-- A node and everything below it, as a dump shows them. -/
def entries (n : Node) : List (Nat × Tag × String) := (n.preorder 0).map entry

theorem toList_dump (n : Node) :
    n.dump.toList = (n.preorder 0).flatMap fun below => (dumpLine below.1 below.2).toList := by
  rw [dump, String.toList_join, List.flatMap_map]

theorem dumpLine_ne_nil (depth : Nat) (n : Node) : (dumpLine depth n).toList ≠ [] := by
  rw [toList_dumpLine]
  simp

theorem entries_of_lines {l k : List (Nat × Node)} (hl : ∀ below ∈ l, below.2.Legible)
    (hk : ∀ below ∈ k, below.2.Legible)
    (h : (l.flatMap fun below => (dumpLine below.1 below.2).toList) =
      k.flatMap fun below => (dumpLine below.1 below.2).toList) :
    l.map entry = k.map entry := by
  induction l generalizing k with
  | nil =>
      cases k with
      | nil => rfl
      | cons z k => exact absurd (List.append_eq_nil_iff.1 h.symm).1 (dumpLine_ne_nil _ _)
  | cons y l ih =>
      cases k with
      | nil => exact absurd (List.append_eq_nil_iff.1 h).1 (dumpLine_ne_nil _ _)
      | cons z k =>
          obtain ⟨hy, hl⟩ := List.forall_mem_cons.1 hl
          obtain ⟨hz, hk⟩ := List.forall_mem_cons.1 hk
          obtain ⟨hentry, hrest⟩ := hy.dumpLine_append_inj hz h
          rw [List.map_cons, List.map_cons, hentry, ih hl hk hrest]

theorem legible_of_mem_preorder (h : ∀ t ∈ n.tokens, t.Lexed) {below : Nat × Node}
    (hbelow : below ∈ n.preorder 0) : below.2.Legible := by
  cases hnode : below.2 with
  | leaf t =>
      have hleaf : leaf t ∈ n.leaves :=
        List.mem_filter.2 ⟨List.mem_map.2 ⟨below, hbelow, hnode⟩, rfl⟩
      rw [leaves_eq] at hleaf
      obtain ⟨u, hu, heq⟩ := List.mem_map.1 hleaf
      exact leaf.inj heq ▸ h u hu
  | _ => trivial

theorem entries_of_dump (hn : ∀ t ∈ n.tokens, t.Lexed) (hm : ∀ t ∈ m.tokens, t.Lexed)
    (h : n.dump = m.dump) : n.entries = m.entries := by
  refine entries_of_lines (fun below => legible_of_mem_preorder hn)
    (fun below => legible_of_mem_preorder hm) ?_
  rw [← toList_dump, ← toList_dump, h]

/-- The tokens below a node are found among its entries. -/
theorem tokens_entries (n : Node) :
    (n.entries.filter fun shown => shown.2.1.isToken).map (·.2) =
      (n.tokens.map Token.label).map fun label => (Tag.token label.1, label.2) := by
  have hleaf : (fun shown : Nat × Tag × String => shown.2.1.isToken) ∘ entry = isLeaf ∘ (·.2) :=
    funext fun below => isToken_tag below.2
  have hleaves := congrArg (List.map fun m : Node => (m.tag, m.text)) n.leaves_eq
  rw [leaves, List.filter_map, List.map_map, List.map_map] at hleaves
  rw [entries, List.filter_map, hleaf, List.map_map, List.map_map]
  exact hleaves

theorem labels_of_entries (h : n.entries = m.entries) :
    n.tokens.map Token.label = m.tokens.map Token.label := by
  have htokens := n.tokens_entries
  rw [h, tokens_entries] at htokens
  refine (List.map_injective_iff.2 ?_ htokens).symm
  intro label label' heq
  obtain ⟨hkind, htext⟩ := Prod.mk.inj heq
  exact Prod.ext (Tag.token.inj hkind) htext

end Node

/-- Programs that were read have the same dump if and only if they differ in places only,
whatever their strings hold and however deep their lists are. -/
theorem dump_determines_program {a b : String} {p q : Program} (ha : Program.ofSource a = .ok p)
    (hb : Program.ofSource b = .ok q) :
    (Node.program p).dump = (Node.program q).dump ↔ p.unplaced = q.unplaced := by
  constructor
  · intro h
    obtain ⟨-, hts⟩ := Program.ofSource_eq_ok_iff_tokens.1 ha
    obtain ⟨-, hus⟩ := Program.ofSource_eq_ok_iff_tokens.1 hb
    have hentries := Node.entries_of_dump (n := .program p) (m := .program q)
      (Program.shaped_of_ofSource ha).2 (Program.shaped_of_ofSource hb).2 h
    have hlabels := Node.labels_of_entries hentries
    cases readAlike_of_labels hts hus hlabels with
    | programs hp hq halike =>
        obtain rfl := Except.ok.inj (ha.symm.trans hp)
        obtain rfl := Except.ok.inj (hb.symm.trans hq)
        exact halike.unplaced
    | errors he =>
        rw [ha] at he
        exact nomatch he
  · intro h
    exact (Program.Alike.of_unplaced h).dump

/-- A string that holds a line of the dump of two atoms, in lists so deep that nothing is padded. -/
theorem dump_determines_program_at_imitated_line :
    let nested (items : String) : String := "((((((((" ++ items ++ "))))))))"
    let imitation := "\"x\n" ++ Text.spaces 56 ++ "ID b\""
    ∃ p q r, Program.ofSource (nested imitation) = .ok p ∧
      Program.ofSource (nested ("\t" ++ imitation ++ "\n")) = .ok q ∧
      Program.ofSource (nested "\"x\" b") = .ok r ∧
      (Node.program p).dump = (Node.program q).dump ∧
      (Node.program p).dump ≠ (Node.program r).dump := by
  intro nested imitation
  have hread (source : String) (h : (Program.ofSource source).isOk = true) :
      ∃ p, Program.ofSource source = .ok p := by
    cases hsource : Program.ofSource source with
    | ok p => exact ⟨p, rfl⟩
    | error e =>
        rw [hsource] at h
        exact nomatch h
  obtain ⟨p, hp⟩ := hread (nested imitation) (by decide +kernel)
  obtain ⟨q, hq⟩ := hread (nested ("\t" ++ imitation ++ "\n")) (by decide +kernel)
  obtain ⟨r, hr⟩ := hread (nested "\"x\" b") (by decide +kernel)
  have hspaced : (Program.ofSource (nested imitation)).map Program.unplaced =
      (Program.ofSource (nested ("\t" ++ imitation ++ "\n"))).map Program.unplaced := by
    decide +kernel
  have hother : (Program.ofSource (nested imitation)).map Program.unplaced ≠
      (Program.ofSource (nested "\"x\" b")).map Program.unplaced := by decide +kernel
  rw [hp, hq] at hspaced
  rw [hp, hr] at hother
  refine ⟨p, q, r, hp, hq, hr, (dump_determines_program hp hq).2 (Except.ok.inj hspaced), ?_⟩
  intro hdump
  exact hother (congrArg Except.ok ((dump_determines_program hp hr).1 hdump))

end Sexpr
