import Courier.Turtle.Document
import Mathlib.Data.List.Basic

/-!
# References, texts and statements of them

What the scanner makes of a reference in brackets and of a text in quotes, and what the reader makes
of a statement of two references and a text.  A delimited text is read character by character: plain
ones stand for themselves, escapes for what they name, and the first delimiter that is not escaped
ends it.  A document with one such statement has one triple (`triples?_of_scanAll`).
-/

namespace Courier.Turtle

namespace Scanner

/-! ### Delimited texts -/

section Delimited

variable {escape : List Char → Option (Char × List Char)} {stop : Char} {allowed : Char → Bool}
  {c : Char} {rest after : List Char}

/-- The delimiter ends the text. -/
lemma delimited_stop : delimited escape [stop] allowed (stop :: rest) = some ([], rest) := by
  rw [delimited.eq_def, if_pos (by simp)]
  rfl

/-- A plain character stands for itself, if it is allowed. -/
lemma delimited_plain (hstop : c ≠ stop) (hescape : c ≠ '\\') :
    delimited escape [stop] allowed (c :: rest) =
      if allowed c then
        (delimited escape [stop] allowed rest).map fun (value, tail) => (c :: value, tail)
      else none := by
  have hprefix : ¬[stop].isPrefixOf (c :: rest) = true := by
    simpa using hstop.symm
  rw [delimited.eq_def, if_neg hprefix]
  split
  next heq => cases heq
  next heq =>
    cases heq
    exact absurd rfl hescape
  next heq =>
    cases heq
    rfl

/-- An escape stands for the character that it names. -/
lemma delimited_escape (hstop : stop ≠ '\\') (hescape : escape rest = some (c, after))
    (hshorter : after.length < rest.length) :
    delimited escape [stop] allowed ('\\' :: rest) =
      (delimited escape [stop] allowed after).map fun (value, tail) => (c :: value, tail) := by
  have hprefix : ¬[stop].isPrefixOf ('\\' :: rest) = true := by
    simpa using hstop
  rw [delimited.eq_def, if_neg hprefix]
  split
  next heq => cases heq
  next heq =>
    cases heq
    rw [hescape]
    dsimp only
    rw [dif_pos hshorter]
  next hother heq =>
    cases heq
    exact (hother rfl).elim

/-- A text without delimiters and escapes is read as it is. -/
theorem delimited_append {text : List Char}
    (h : ∀ c ∈ text, c ≠ stop ∧ c ≠ '\\' ∧ allowed c = true) (rest : List Char) :
    delimited escape [stop] allowed (text ++ stop :: rest) = some (text, rest) := by
  induction text with
  | nil => exact delimited_stop
  | cons c text ih =>
    obtain ⟨⟨hstop, hescape, hallowed⟩, htext⟩ := List.forall_mem_cons.1 h
    rw [List.cons_append, delimited_plain hstop hescape, if_pos hallowed, ih htext]
    rfl

end Delimited

/-! ### Single tokens -/

/-- A reference without closing brackets and backslashes is read as it is. -/
lemma scan_reference {text : List Char} (h : ∀ c ∈ text, c ≠ '>' ∧ c ≠ '\\') (rest : List Char) :
    scan ('<' :: (text ++ '>' :: rest)) = some (.reference text, rest) := by
  have htext : ∀ c ∈ text, c ≠ '>' ∧ c ≠ '\\' ∧ true = true :=
    fun c hc => ⟨(h c hc).1, (h c hc).2, rfl⟩
  change scanReference _ = _
  unfold scanReference
  rw [delimited_append htext]
  rfl

/-- A quote that is not followed by two more starts a text on one line. -/
lemma scan_text {cs : List Char} (h : cs.take 2 ≠ ['"', '"']) :
    scan ('"' :: cs) = (delimited textEscape ['"'] (fun c => c != '\n' && c != '\r') cs).map
      fun (value, rest) => (.text value, rest) := by
  change scanText '"' cs = _
  unfold scanText
  split
  next a b rest =>
    rw [if_neg]
    rintro ⟨rfl, rfl⟩
    exact h rfl
  next => rfl

/-- A point is a full stop where no digit follows. -/
lemma scan_stop {rest : List Char} (h : ∀ c ∈ rest.head?, c.isDigit = false) :
    scan ('.' :: rest) = some (.mark .stop, rest) := by
  cases rest with
  | nil => rfl
  | cons c rest =>
    change (if c.isDigit then _ else _) = _
    rw [if_neg (by simp [h c rfl])]

/-! ### Rows of tokens -/

lemma skip_append {blanks : List Char} (h : ∀ c ∈ blanks, isSpace c = true) (cs : List Char) :
    skip false (blanks ++ cs) = skip false cs := by
  induction blanks with
  | nil => rfl
  | cons c blanks ih =>
    obtain ⟨hc, hblanks⟩ := List.forall_mem_cons.1 h
    rw [List.cons_append, skip]
    simp only [hc, if_true, Bool.false_eq_true, if_false]
    exact ih hblanks

/-- Blanks alone have no tokens. -/
lemma scanAll_blanks {blanks : List Char} (h : ∀ c ∈ blanks, isSpace c = true) :
    scanAll blanks = some [] := by
  have hskip := skip_append h []
  rw [List.append_nil] at hskip
  rw [scanAll, hskip]
  rfl

/-- A token after blanks comes before the tokens of the rest. -/
lemma scanAll_append {b : List Char} {c : Char} {cs rest : List Char} {t : Option Token}
    (hblanks : ∀ c ∈ b, isSpace c = true) (hc : isSpace c = false ∧ c ≠ '#')
    (hscan : scan (c :: cs) = t.map (·, rest)) (hshorter : rest.length ≤ cs.length) :
    scanAll (b ++ c :: cs) = t.bind fun token => (scanAll rest).map (token :: ·) := by
  have hskip : skip false (b ++ c :: cs) = c :: cs := by
    rw [skip_append hblanks, skip]
    simp [hc.1, hc.2]
  rw [scanAll, hskip]
  dsimp only
  rw [hscan]
  cases t with
  | none => rfl
  | some token =>
    dsimp only [Option.map_some, Option.bind_some]
    rw [dif_pos]
    rw [List.length_append, List.length_cons]
    omega

end Scanner

/-! ### Statements -/

namespace Reading

section Statement

variable {subject predicate value : List Char} {s p : Iri} {rest : List Token} {r r' : Reader}

lemma run_bind {α β : Type} {x : Reading α} {f : α → Reading β} {a : α}
    (h : StateT.run x r = some (a, r')) : StateT.run (x >>= f) r = StateT.run (f a) r' := by
  rw [StateT.run_bind, h]
  rfl

lemma run_peek (r : Reader) : StateT.run peek r = some (r.tokens.head?, r) :=
  rfl

lemma run_next (r : Reader) (token : Token) (rest : List Token) :
    StateT.run next { r with tokens := token :: rest } =
      some (token, { r with tokens := rest, position := r.position + 1 }) :=
  rfl

lemma run_resolve {i : Iri} {text : List Char} (h : r.base.resolve? text = some i) :
    StateT.run (resolve text) r = some (i, r) := by
  have hget : StateT.run (get : Reading Reader) r = some (r, r) := rfl
  unfold resolve
  rw [run_bind hget, h]
  rfl

/-- A text before a full stop is an object of its own, which the stop settles. -/
lemma run_objects (r : Reader) (s : Term) (p : Iri) (value : List Char) (rest : List Token)
    (depth : Nat) :
    StateT.run (objects s p (depth + 2)) { r with tokens := .text value :: .mark .stop :: rest } =
      some ((), { r with
        tokens := .mark .stop :: rest
        position := r.position + 1
        settled :=
          (r.position + 1, ⟨s, p, .literal (.typed (.ofList value) Vocabulary.string)⟩) ::
            r.settled }) :=
  rfl

/-- A reference and a text are a property and its object. -/
lemma run_properties (hp : r.base.resolve? predicate = some p) (s : Term) (value : List Char)
    (rest : List Token) (depth : Nat) :
    StateT.run (properties s (depth + 3))
        { r with tokens := .reference predicate :: .text value :: .mark .stop :: rest } =
      some ((), { r with
        tokens := .mark .stop :: rest
        position := r.position + 2
        settled :=
          (r.position + 2, ⟨s, p, .literal (.typed (.ofList value) Vocabulary.string)⟩) ::
            r.settled }) := by
  have hresolve := run_resolve (r := { r with
    tokens := .text value :: .mark .stop :: rest
    position := r.position + 1 }) hp
  have hobjects := run_objects { r with position := r.position + 1 } s p value rest depth
  unfold properties
  rw [run_bind (run_next r _ _)]
  change StateT.run (resolve predicate >>= _) _ = _
  rw [run_bind hresolve, run_bind hobjects]
  rfl

/-- A subject, a property and a text make a statement. -/
lemma run_statement (hs : r.base.resolve? subject = some s)
    (hp : r.base.resolve? predicate = some p) (value : List Char) (rest : List Token)
    (depth : Nat) :
    StateT.run (statement (depth + 3))
        { r with
          tokens := .reference subject :: .reference predicate :: .text value ::
            .mark .stop :: rest } =
      some ((), { r with
        tokens := rest
        position := r.position + 4
        settled :=
          (r.position + 3, ⟨.iri s, p, .literal (.typed (.ofList value) Vocabulary.string)⟩) ::
            r.settled }) := by
  have hresolve := run_resolve (r := { r with
    tokens := .reference predicate :: .text value :: .mark .stop :: rest
    position := r.position + 1 }) hs
  have hproperties := run_properties (r := { r with position := r.position + 1 }) hp (.iri s) value
    rest depth
  unfold statement Reading.subject
  rw [bind_assoc, run_bind (run_next r _ _)]
  change StateT.run ((resolve subject >>= _) >>= _) _ = _
  rw [bind_assoc, run_bind hresolve]
  rw [pure_bind]
  dsimp only
  rw [run_bind (run_peek _), Bool.false_and, if_neg Bool.false_ne_true, run_bind hproperties]
  rfl

/-- An entry that starts with a reference is a statement. -/
lemma run_entry (hr : r.tokens = .reference subject :: rest) (depth : Nat) :
    StateT.run (entry depth) r = StateT.run (statement depth) r := by
  rw [entry, run_bind (run_peek r), hr]
  rfl

/-- Where one entry takes all tokens, it is all that is read. -/
lemma run_entries {depth : Nat} {token : Token} (hr : r.tokens = token :: rest)
    (hentry : StateT.run (entry depth) r = some ((), r')) (hr' : r'.tokens = []) (count : Nat) :
    StateT.run (entries depth (count + 2)) r = some ((), r') := by
  have hend : StateT.run (entries depth (count + 1)) r' = some ((), r') := by
    rw [entries, run_bind (run_peek r'), hr']
    rfl
  have hsome : (token :: rest).head?.isSome = true := rfl
  rw [entries, run_bind (run_peek r), hr, if_pos hsome, run_bind hentry, hend]

end Statement

end Reading

/-- A document of one such statement has one triple. -/
theorem triples?_of_scanAll {reading : Nat} {base s p : Iri} {body : String}
    {subject predicate value : List Char}
    (hbody : Scanner.scanAll body.toList =
      some [.reference subject, .reference predicate, .text value, .mark .stop])
    (hs : base.resolve? subject = some s) (hp : base.resolve? predicate = some p) :
    triples? reading base body =
      some [⟨.iri s, p, .literal (.typed (.ofList value) Vocabulary.string)⟩] := by
  have hstatement := Reading.run_statement (r := { tokens := [], base, origin := (reading, base) })
    hs hp value [] 17
  rw [← Reading.run_entry rfl] at hstatement
  have hentries := Reading.run_entries rfl hstatement rfl 2
  unfold triples?
  rw [hbody]
  change Option.bind (StateT.run (Reading.entries 20 4) _) _ = _
  rw [hentries]
  rfl

end Courier.Turtle
