import Courier.Proofs.Iri.Reference
import Courier.Proofs.Token.Codec
import Courier.Proofs.Turtle.Document
import Courier.Service.Patch

/-!
# What a patch says

A patch adds one statement, and whatever the token is, no other: its backslashes and quotes are
escaped, and neither identifier can end its brackets.  Read by itself, what stands between the
braces of a patch is that statement, or nothing at all if the token goes over lines, which no issued
token does (`read_inserted_tokenPatch`).
-/

namespace Courier

open Turtle Turtle.Scanner

/-- What stands between the first opening and the last closing brace. -/
def inserted (patch : String) : String :=
  let body := (patch.toList.dropWhile (· != '\x7b')).tail
  .ofList (body.reverse.dropWhile (· != '\x7d')).tail.reverse

/-- Whether the text goes over lines. -/
def HasLineEnd (text : List Char) : Prop :=
  '\n' ∈ text ∨ '\r' ∈ text

instance : DecidablePred HasLineEnd :=
  fun _ => inferInstanceAs (Decidable (_ ∨ _))

/-! ### The token between its quotes -/

/-- An escaped token is read as it was, if it stands on one line. -/
lemma delimited_escapeToken (token rest : List Char) :
    delimited textEscape ['"'] (fun c => c != '\n' && c != '\r')
        (escapeToken token ++ '"' :: rest) =
      if HasLineEnd token then none else some (token, rest) := by
  induction token with
  | nil => exact delimited_stop
  | cons c token ih =>
    have hcons : escapeToken (c :: token) ++ '"' :: rest =
        (if c = '\\' ∨ c = '"' then ['\\', c] else [c]) ++ (escapeToken token ++ '"' :: rest) := by
      unfold escapeToken
      rw [List.flatMap_cons, List.append_assoc]
    -- A character that does not end the line is read in front of the others.
    have hfront : c ≠ '\n' → c ≠ '\r' →
        ((if HasLineEnd token then none else some (token, rest)).map fun p => (c :: p.1, p.2)) =
        if HasLineEnd (c :: token) then none else some (c :: token, rest) := by
      intro hline hreturn
      have hiff : HasLineEnd (c :: token) ↔ HasLineEnd token := by
        simp [HasLineEnd, hline.symm, hreturn.symm]
      rw [if_congr hiff rfl rfl]
      split <;> rfl
    rw [hcons]
    by_cases hc : c = '\\' ∨ c = '"'
    · have hescape : textEscape (c :: (escapeToken token ++ '"' :: rest)) =
          some (c, escapeToken token ++ '"' :: rest) := by
        rcases hc with rfl | rfl <;> rfl
      rw [if_pos hc]
      change delimited _ _ _ ('\\' :: c :: (escapeToken token ++ '"' :: rest)) = _
      rw [delimited_escape (by decide) hescape (by simp), ih]
      rcases hc with rfl | rfl
      · exact hfront (by decide) (by decide)
      · exact hfront (by decide) (by decide)
    · obtain ⟨hbackslash, hquote⟩ := not_or.1 hc
      rw [if_neg hc, List.singleton_append, delimited_plain hquote hbackslash, ih]
      by_cases hline : c = '\n' ∨ c = '\r'
      · rcases hline with rfl | rfl
        · simp [HasLineEnd]
        · simp [HasLineEnd]
      · obtain ⟨hline, hreturn⟩ := not_or.1 hline
        rw [if_pos (by simp [hline, hreturn])]
        exact hfront hline hreturn

/-- No escaped token starts like a text over several lines. -/
lemma take_escapeToken_ne (token rest : List Char) :
    (escapeToken token ++ '"' :: ' ' :: rest).take 2 ≠ ['"', '"'] := by
  cases token with
  | nil =>
    change ['"', ' '] ≠ ['"', '"']
    decide
  | cons c token =>
    unfold escapeToken
    rw [List.flatMap_cons]
    split
    next => simp
    next hc =>
      have hquote : c ≠ '"' := fun h => hc (Or.inr h)
      simp [hquote]

/-! ### The statement of a patch -/

section Statement

variable {webId predicate : Iri}

/-- An absolute identifier in brackets is one word. -/
lemma scan_reference_of_isAbsolute {i : Iri} (h : Iri.isAbsolute i.text = true)
    (rest : List Char) :
    scan ('<' :: (i.text.toList ++ '>' :: rest)) = some (.reference i.text.toList, rest) := by
  refine scan_reference (fun c hc => ⟨?_, ?_⟩) rest
  · rintro rfl
    exact Iri.notMem_of_isAbsolute h (by decide) hc
  · rintro rfl
    exact Iri.notMem_of_isAbsolute h (by decide) hc

/-- A token in its quotes is one word, unless it ends the line. -/
lemma scan_escapeToken (token rest : List Char) :
    scan ('"' :: (escapeToken token ++ '"' :: ' ' :: rest)) =
      (if HasLineEnd token then none else some (Token.text token)).map (·, ' ' :: rest) := by
  rw [scan_text (take_escapeToken_ne _ _), delimited_escapeToken]
  split <;> rfl

/-- An absolute identifier in brackets comes as a reference before the other words. -/
lemma scanAll_reference {i : Iri} (h : Iri.isAbsolute i.text = true) {blanks : List Char}
    (hblanks : ∀ c ∈ blanks, isSpace c = true) (rest : List Char) :
    scanAll (blanks ++ '<' :: (i.text.toList ++ '>' :: rest)) =
      (scanAll rest).map (.reference i.text.toList :: ·) := by
  have hscan := scan_reference_of_isAbsolute h rest
  refine scanAll_append hblanks (by decide) (t := some _) hscan ?_
  rw [List.length_append, List.length_cons]
  omega

/-- A full stop before blanks is the last word. -/
lemma scanAll_stop {blanks : List Char} (hblanks : ∀ c ∈ blanks, isSpace c = true) :
    scanAll (' ' :: '.' :: blanks) = some [.mark .stop] := by
  have hdigit : ∀ c ∈ blanks.head?, c.isDigit = false := by
    intro c hc
    have hspace := hblanks c (List.mem_of_mem_head? hc)
    simp only [isSpace, Bool.or_eq_true, beq_iff_eq] at hspace
    rcases hspace with ((rfl | rfl) | rfl) | rfl <;> decide
  have hspace : ∀ c ∈ [' '], isSpace c = true := List.forall_mem_singleton.2 rfl
  have hscan := scanAll_append (t := some (.mark .stop)) hspace (by decide)
    (scan_stop hdigit) le_rfl
  rw [Option.bind_some, scanAll_blanks hblanks] at hscan
  exact hscan

/-- The words of the statement, wherever it stands between blanks: two references, a text and a full
stop, unless the token ends the line. -/
lemma scanAll_tokenStatement (hwebId : Iri.isAbsolute webId.text = true)
    (hpredicate : Iri.isAbsolute predicate.text = true) (token : String) {before after : List Char}
    (hbefore : ∀ c ∈ before, isSpace c = true) (hafter : ∀ c ∈ after, isSpace c = true) :
    scanAll (before ++ ((tokenStatement webId predicate token).toList ++ after)) =
      if HasLineEnd token.toList then none
      else some [.reference webId.text.toList, .reference predicate.text.toList,
        .text token.toList, .mark .stop] := by
  have hspace : ∀ c ∈ [' '], isSpace c = true := List.forall_mem_singleton.2 rfl
  have hlist : (tokenStatement webId predicate token).toList ++ after =
      '<' :: (webId.text.toList ++ '>' :: ([' '] ++ '<' :: (predicate.text.toList ++ '>' ::
        ([' '] ++ '"' :: (escapeToken token.toList ++ '"' :: ' ' :: '.' :: after))))) := by
    unfold tokenStatement
    simp
  have htext := scanAll_append hspace (by decide) (scan_escapeToken token.toList ('.' :: after))
    (by simp; omega)
  rw [hlist, scanAll_reference hwebId hbefore, scanAll_reference hpredicate hspace, htext,
    scanAll_stop hafter]
  split <;> rfl

end Statement

/-- Between the braces of a patch stands its statement alone, whatever braces the token holds. -/
lemma inserted_tokenPatch (webId predicate : Iri) (token : String) :
    inserted (tokenPatch webId predicate token) =
      "\n    " ++ tokenStatement webId predicate token ++ "\n  " := by
  obtain ⟨front, hfront⟩ : ∃ front, front = ("_:patch a <" ++ Vocabulary.insertDeletePatch.text ++
      ">;\n  <" ++ Vocabulary.inserts.text ++ "> ").toList := ⟨_, rfl⟩
  have hopen : ∀ c ∈ front, (c != '\x7b') = true := by
    subst hfront
    exact List.all_eq_true.1 (by decide)
  have hclose : ∀ c ∈ " .\n".toList.reverse, (c != '\x7d') = true :=
    List.all_eq_true.1 (by decide)
  have hlist : (tokenPatch webId predicate token).toList = front ++ '\x7b' ::
      (("\n    " ++ tokenStatement webId predicate token ++ "\n  ").toList ++
        '\x7d' :: " .\n".toList) := by
    subst hfront
    unfold tokenPatch
    simp
  unfold inserted
  dsimp only
  rw [hlist, List.dropWhile_append_of_pos hopen, List.dropWhile_cons_of_neg (by decide),
    List.tail_cons, List.reverse_append, List.reverse_cons, List.append_assoc,
    List.dropWhile_append_of_pos hclose, List.singleton_append,
    List.dropWhile_cons_of_neg (by decide), List.tail_cons, List.reverse_reverse,
    String.ofList_toList]

/-- What is read in the statement, wherever it stands between blanks. -/
lemma read_tokenStatement (reading : Nat) {document webId predicate : Iri}
    (hdocument : Iri.isAbsolute document.text = true) (hwebId : Iri.isAbsolute webId.text = true)
    (hpredicate : Iri.isAbsolute predicate.text = true) (token : String) {before after : String}
    (hbefore : ∀ c ∈ before.toList, isSpace c = true)
    (hafter : ∀ c ∈ after.toList, isSpace c = true) :
    Turtle.read reading document (before ++ tokenStatement webId predicate token ++ after) =
      if HasLineEnd token.toList then .error (.malformed document)
      else .ok [⟨.iri webId, predicate, .literal (.typed token Vocabulary.string)⟩] := by
  have hlist : (before ++ tokenStatement webId predicate token ++ after).toList =
      before.toList ++ ((tokenStatement webId predicate token).toList ++ after.toList) := by
    rw [String.toList_append, String.toList_append, List.append_assoc]
  have hscan := scanAll_tokenStatement hwebId hpredicate token hbefore hafter
  rw [← hlist] at hscan
  unfold Turtle.read
  rw [if_pos hdocument]
  by_cases hline : HasLineEnd token.toList
  · rw [if_pos hline] at hscan ⊢
    unfold triples?
    rw [hscan]
    rfl
  · rw [if_neg hline] at hscan ⊢
    rw [triples?_of_scanAll hscan (Iri.resolve?_of_isAbsolute hwebId document)
      (Iri.resolve?_of_isAbsolute hpredicate document), String.ofList_toList]

/-- A patch cannot be made to say anything else.  Its statement, by itself or as what stands between
the braces, is read as one triple: the person and the predicate, which mean themselves in every
document, with exactly the token.  Only a token that goes over lines is refused, and no token that
was issued does. -/
theorem read_inserted_tokenPatch (reading : Nat) {document webId predicate : Iri}
    (hdocument : Iri.isAbsolute document.text = true) (hwebId : Iri.isAbsolute webId.text = true)
    (hpredicate : Iri.isAbsolute predicate.text = true) :
    document.resolve? webId.text.toList = some webId ∧
      document.resolve? predicate.text.toList = some predicate ∧
      (∀ token, ∀ text ∈ [tokenStatement webId predicate token,
          inserted (tokenPatch webId predicate token)],
        Turtle.read reading document text =
          if HasLineEnd token.toList then .error (.malformed document)
          else .ok [⟨.iri webId, predicate, .literal (.typed token Vocabulary.string)⟩]) ∧
      ∀ (codec : TokenCodec) (claim : Claim) (now : UInt64),
        ¬HasLineEnd (codec.issue claim now).toList := by
  refine ⟨Iri.resolve?_of_isAbsolute hwebId document,
    Iri.resolve?_of_isAbsolute hpredicate document, fun token text htext => ?_,
    fun codec claim now => ?_⟩
  · obtain rfl | rfl : text = "" ++ tokenStatement webId predicate token ++ "" ∨
        text = "\n    " ++ tokenStatement webId predicate token ++ "\n  " := by
      simpa [inserted_tokenPatch] using htext
    · exact read_tokenStatement reading hdocument hwebId hpredicate token
        (List.all_eq_true.1 (by decide)) (List.all_eq_true.1 (by decide))
    · exact read_tokenStatement reading hdocument hwebId hpredicate token
        (List.all_eq_true.1 (by decide)) (List.all_eq_true.1 (by decide))
  · rintro (hmem | hmem)
    · exact absurd (TokenCodec.not_isBlank_of_mem_issue hmem) (by decide)
    · exact absurd (TokenCodec.not_isBlank_of_mem_issue hmem) (by decide)

/-- A token that looks like the end of its statement and the start of another. -/
def boldToken : String :=
  "\" . <a:x> <a:y> \"\\"

/-- In a patch it is a token like any other. -/
theorem read_inserted_boldToken :
    (Iri.isAbsolute (Iri.mk "a:d").text = true ∧ Iri.isAbsolute (Iri.mk "a:w").text = true ∧
        Iri.isAbsolute (Iri.mk "a:p").text = true) ∧
      Turtle.read 0 ⟨"a:d"⟩ (inserted (tokenPatch ⟨"a:w"⟩ ⟨"a:p"⟩ boldToken)) =
        .ok [⟨.iri ⟨"a:w"⟩, ⟨"a:p"⟩, .literal (.typed boldToken Vocabulary.string)⟩] := by
  have hdocument : Iri.isAbsolute (Iri.mk "a:d").text = true := by decide
  have hwebId : Iri.isAbsolute (Iri.mk "a:w").text = true := by decide
  have hpredicate : Iri.isAbsolute (Iri.mk "a:p").text = true := by decide
  obtain ⟨-, -, htokens, -⟩ := read_inserted_tokenPatch 0 hdocument hwebId hpredicate
  have hread := htokens boldToken _ (List.mem_cons_of_mem _ List.mem_cons_self)
  rw [if_neg (by decide)] at hread
  exact ⟨⟨hdocument, hwebId, hpredicate⟩, hread⟩

end Courier
