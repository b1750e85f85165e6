/-
The tokens of a source text, as far as comments are told apart from the rest: string literals, line
comments, block comments and single characters, read from left to right. Every text has exactly one
such reading. Blanking comments keeps every place of the text, changes it just inside the tokens that are
comments, and leaves a text that has none, so that blanking it again changes nothing.
-/
import RtlAtlas.Proofs.Source.Comment
import RtlAtlas.Proofs.Source.Literal.Collapse
import RtlAtlas.Proofs.Source.Names

namespace RtlAtlas.Source

/-- A part of a source text: a comment, or what a mark of a comment does not count in, or a single
character of anything else. -/
inductive Token where
  | literal (text : List Char)
  | lineComment (text : List Char)
  | blockComment (text : List Char)
  | character (c : Char)
  deriving DecidableEq, Repr

namespace Token

def text : Token → List Char
  | literal w | lineComment w | blockComment w => w
  | character c => [c]

def isComment : Token → Bool
  | lineComment _ | blockComment _ => true
  | literal _ | character _ => false

/-- A token is read at the head of a text in front of what is left of it. -/
inductive Leads : Token → List Char → Prop
  /-- A literal ends with its closing quote, -/
  | closed {w rest : List Char} : literalText w = true → Leads (literal ('"' :: (w ++ ['"']))) rest
  /-- or with the line, -/
  | broken {w rest : List Char} : literalText w = true → Leads (literal ('"' :: (w ++ ['\n']))) rest
  /-- or with the text, -/
  | unclosed {w : List Char} : literalText w = true → Leads (literal ('"' :: w)) []
  /-- where the last character may begin an escape. -/
  | escaping {w : List Char} : literalText w = true → Leads (literal ('"' :: (w ++ ['\\']))) []
  /-- A line comment ends in front of the line feed, or with the text. -/
  | line {w rest : List Char} : '\n' ∉ w → rest.head?.any (· != '\n') = false →
      Leads (lineComment ('/' :: '/' :: w)) rest
  /-- A block comment ends with the first closing mark behind its opening mark, -/
  | block {w rest : List Char} : ¬['*', '/'] <:+: w →
      Leads (blockComment ('/' :: '*' :: (w ++ ['*', '/']))) rest
  /-- or with the text. -/
  | unended {w : List Char} : ¬['*', '/'] <:+: w → Leads (blockComment ('/' :: '*' :: w)) []
  /-- Any other character stands alone, so a slash is not followed by one that makes it a mark. -/
  | character {c : Char} {rest : List Char} : c ≠ '"' →
      (c = '/' → rest.head? ≠ some '/' ∧ rest.head? ≠ some '*') → Leads (character c) rest

end Token

/-- The tokens of a text, from left to right. -/
inductive Tokenised : List Char → List Token → Prop
  | nil : Tokenised [] []
  | cons {t : Token} {rest : List Char} {ts : List Token} : t.Leads rest → Tokenised rest ts →
      Tokenised (t.text ++ rest) (t :: ts)

variable {t t' : Token} {ts ts' : List Token} {text rest rest' w cs : List Char}

/-! ## Every text has tokens -/

theorem exists_literalText (cs : List Char) :
    (∃ w rest, literalText w = true ∧ (cs = w ++ '"' :: rest ∨ cs = w ++ '\n' :: rest)) ∨
      literalText cs = true ∨ ∃ w, literalText w = true ∧ cs = w ++ ['\\'] := by
  fun_induction literalText cs with
  | case1 => exact .inr (.inl rfl)
  | case2 c cs ih =>
    -- an escape goes in front of whatever the rest is read as
    rcases ih with ⟨w, rest, hw, rfl | rfl⟩ | hcs | ⟨w, hw, rfl⟩
    · exact .inl ⟨'\\' :: c :: w, rest, hw, .inl rfl⟩
    · exact .inl ⟨'\\' :: c :: w, rest, hw, .inr rfl⟩
    · exact .inr (.inl hcs)
    · exact .inr (.inr ⟨'\\' :: c :: w, hw, rfl⟩)
  | case3 c cs hescape ih =>
    by_cases hquote : c = '"'
    · exact .inl ⟨[], cs, rfl, .inl (by rw [hquote]; rfl)⟩
    by_cases hfeed : c = '\n'
    · exact .inl ⟨[], cs, rfl, .inr (by rw [hfeed]; rfl)⟩
    by_cases hback : c = '\\'
    · cases cs with
      | nil => exact .inr (.inr ⟨[], rfl, by rw [hback]; rfl⟩)
      | cons d cs => exact absurd rfl (hescape d cs hback)
    · have hcons : ∀ {w : List Char}, literalText w = true → literalText (c :: w) = true := by
        intro w hw
        rw [literalText_cons hback, hw]
        simp [hquote, hfeed]
      rcases ih with ⟨w, rest, hw, rfl | rfl⟩ | hcs | ⟨w, hw, rfl⟩
      · exact .inl ⟨c :: w, rest, hcons hw, .inl rfl⟩
      · exact .inl ⟨c :: w, rest, hcons hw, .inr rfl⟩
      · exact .inr (.inl (by simp [hquote, hfeed, hback, hcs]))
      · exact .inr (.inr ⟨c :: w, hcons hw, rfl⟩)

theorem exists_closingMark : ∀ cs : List Char,
    (∃ w rest, ¬['*', '/'] <:+: w ∧ cs = w ++ '*' :: '/' :: rest) ∨ ¬['*', '/'] <:+: cs
  | [] => .inr (by simp)
  | c :: cs => by
    by_cases hhere : ['*', '/'] <+: c :: cs
    · obtain ⟨rest, hrest⟩ := hhere
      exact .inl ⟨[], rest, by simp, hrest.symm⟩
    rcases exists_closingMark cs with ⟨w, rest, hw, rfl⟩ | hcs
    · refine .inl ⟨c :: w, rest, fun hin => ?_, rfl⟩
      rcases List.infix_cons_iff.1 hin with hp | hin
      · exact hhere (hp.trans ((List.prefix_cons_inj c).2 (List.prefix_append _ _)))
      · exact hw hin
    · exact .inr fun hin => (List.infix_cons_iff.1 hin).elim hhere hcs

/-- Some token is read at the head of a text. -/
theorem exists_leads : ∀ {cs : List Char}, cs ≠ [] → ∃ (t : Token) (rest : List Char),
    t.Leads rest ∧ cs = t.text ++ rest
  | [], hne => absurd rfl hne
  | c :: cs, _ => by
    by_cases hquote : c = '"'
    · subst hquote
      rcases exists_literalText cs with ⟨w, rest, hw, rfl | rfl⟩ | hcs | ⟨w, hw, rfl⟩
      · exact ⟨_, rest, .closed hw, by simp [Token.text]⟩
      · exact ⟨_, rest, .broken hw, by simp [Token.text]⟩
      · exact ⟨_, [], .unclosed hcs, by simp [Token.text]⟩
      · exact ⟨_, [], .escaping hw, by simp [Token.text]⟩
    -- The two tests on what follows a slash are kept: the last case needs that neither holds.
    by_cases hline : c = '/' ∧ cs.head? = some '/'
    · obtain ⟨rfl, hnext⟩ := hline
      obtain ⟨cs, rfl⟩ := List.head?_eq_some_iff.1 hnext
      refine ⟨.lineComment ('/' :: '/' :: cs.takeWhile (· != '\n')), cs.dropWhile (· != '\n'),
        .line (fun hfeed => ?_) ?_, by simp [Token.text]⟩
      · simpa using List.mem_takeWhile_imp hfeed
      · have hstop := List.head?_dropWhile_not (· != '\n') cs
        cases hdrop : (cs.dropWhile (· != '\n')).head? with
        | none => rfl
        | some x => simpa [hdrop] using hstop
    by_cases hblock : c = '/' ∧ cs.head? = some '*'
    · obtain ⟨rfl, hnext⟩ := hblock
      obtain ⟨cs, rfl⟩ := List.head?_eq_some_iff.1 hnext
      rcases exists_closingMark cs with ⟨w, rest, hw, rfl⟩ | hcs
      · exact ⟨_, rest, .block hw, by simp [Token.text]⟩
      · exact ⟨_, [], .unended hcs, by simp [Token.text]⟩
    · exact ⟨.character c, cs, .character hquote fun hc =>
        ⟨fun hn => hline ⟨hc, hn⟩, fun hn => hblock ⟨hc, hn⟩⟩, rfl⟩

theorem Token.Leads.text_ne_nil (h : t.Leads rest) : t.text ≠ [] := by
  cases h <;> exact List.cons_ne_nil _ _

theorem exists_tokenised (text : List Char) : ∃ ts, Tokenised text ts := by
  induction hn : text.length using Nat.strong_induction_on generalizing text with
  | _ n ih =>
    cases hne : text with
    | nil => exact ⟨[], .nil⟩
    | cons c cs =>
      obtain ⟨t, rest, hlead, heq⟩ := exists_leads (List.cons_ne_nil c cs)
      have hpos := List.length_pos_iff.2 hlead.text_ne_nil
      have hlength := congrArg List.length (hne.trans heq)
      rw [List.length_append] at hlength
      obtain ⟨ts, hts⟩ := ih rest.length (by omega) rest rfl
      exact ⟨t :: ts, heq ▸ .cons hlead hts⟩

/-! ## A text has its tokens in one way only -/

/-- What follows a literal, from behind its opening quote on. -/
def behindLiteral : List Char → List Char
  | [] => []
  | '\\' :: _ :: cs => behindLiteral cs
  | c :: cs => if c == '"' || c == '\n' then cs else behindLiteral cs

/-- What follows a block comment, from behind its opening mark on. -/
def behindComment : List Char → List Char
  | [] => []
  | '*' :: '/' :: cs => cs
  | _ :: cs => behindComment cs

/-- What follows the token at the head of a text. -/
def behindToken : List Char → List Char
  | [] => []
  | '"' :: cs => behindLiteral cs
  | '/' :: '/' :: cs => cs.dropWhile (· != '\n')
  | '/' :: '*' :: cs => behindComment cs
  | _ :: cs => cs

theorem behindLiteral_append (hw : literalText w = true) (cs : List Char) :
    behindLiteral (w ++ cs) = behindLiteral cs := by
  fun_induction literalText w with
  | case1 => rfl
  | case2 c w ih => exact ih hw
  | case3 c w hescape ih =>
    simp only [Bool.and_eq_true, bne_iff_ne] at hw
    obtain ⟨⟨⟨hquote, hfeed⟩, hback⟩, hw⟩ := hw
    rw [List.cons_append, behindLiteral, ih hw]
    · simp [hquote, hfeed]
    · exact fun _ _ hc => absurd hc hback

theorem behindComment_of_not_infix (hw : ¬['*', '/'] <:+: w) : behindComment w = [] := by
  fun_induction behindComment w with
  | case1 => rfl
  | case2 cs => exact absurd ⟨[], cs, rfl⟩ hw
  | case3 c cs _ ih => exact ih fun hin => hw (List.infix_cons_iff.2 (.inr hin))

theorem behindComment_append : ∀ {w : List Char}, ¬['*', '/'] <:+: w → ∀ cs : List Char,
    behindComment (w ++ '*' :: '/' :: cs) = cs
  | [], _, _ => rfl
  | c :: w, hw, cs => by
    have hrest := behindComment_append (fun hin => hw (List.infix_cons_iff.2 (.inr hin))) cs
    rw [List.cons_append, behindComment, hrest]
    rintro rest rfl heq
    -- the slash behind a star would be inside of the comment
    cases w with
    | nil => cases heq
    | cons d w =>
      obtain ⟨rfl, -⟩ := List.cons.inj heq
      exact hw ⟨[], w, rfl⟩

theorem Token.Leads.behindToken_eq (h : t.Leads rest) : behindToken (t.text ++ rest) = rest := by
  cases h with
  | closed hw | broken hw =>
    simp only [Token.text, List.cons_append, List.append_assoc, behindToken]
    exact behindLiteral_append hw _
  | unclosed hw =>
    simp only [Token.text, List.append_nil, behindToken]
    simpa [behindLiteral] using behindLiteral_append hw []
  | escaping hw =>
    simp only [Token.text, List.append_nil, behindToken]
    exact behindLiteral_append hw ['\\']
  | line hw hrest =>
    simp only [Token.text, List.cons_append, behindToken]
    exact Text.dropWhile_run (fun x hx => by simpa using fun he : x = '\n' => hw (he ▸ hx)) hrest
  | block hw =>
    simp only [Token.text, List.cons_append, List.append_assoc, behindToken]
    exact behindComment_append hw rest
  | unended hw =>
    simp only [Token.text, List.append_nil, behindToken]
    exact behindComment_of_not_infix hw
  | character hquote hslash =>
    simp only [Token.text, List.singleton_append]
    rw [behindToken]
    · exact fun hc => absurd hc hquote
    · rintro cs hc rfl
      exact (hslash hc).1 rfl
    · rintro cs hc rfl
      exact (hslash hc).2 rfl

/-- The token at the head of a text is determined by the text. -/
theorem Token.Leads.unique (h : t.Leads rest) (h' : t'.Leads rest')
    (heq : t.text ++ rest = t'.text ++ rest') : t = t' ∧ rest = rest' := by
  obtain rfl : rest = rest' := by rw [← h.behindToken_eq, heq, h'.behindToken_eq]
  have htext : t.text = t'.text := List.append_cancel_right heq
  refine ⟨?_, rfl⟩
  cases h <;> cases h' <;> grind [Token.text]

theorem Tokenised.unique (h : Tokenised text ts) (h' : Tokenised text ts') : ts = ts' := by
  induction h generalizing ts' with
  | nil =>
    generalize htext : ([] : List Char) = text at h'
    cases h' with
    | nil => rfl
    | cons hlead _ => exact absurd (List.append_eq_nil_iff.1 htext.symm).1 hlead.text_ne_nil
  | @cons t rest ts hlead _ ih =>
    generalize htext : t.text ++ rest = text at h'
    cases h' with
    | nil => exact absurd (List.append_eq_nil_iff.1 htext).1 hlead.text_ne_nil
    | cons hlead' h' =>
      obtain ⟨rfl, rfl⟩ := hlead.unique hlead' htext
      rw [ih h']

/-! ## Blanking comments, token by token -/

/-- What is left of a token: a comment is blanked, anything else stays. -/
def Token.shown (t : Token) : List Char := if t.isComment then t.text.map blanked else t.text

theorem stripFrom_literalText (hw : literalText w = true) (cs : List Char) :
    stripFrom .literal (w ++ cs) = w ++ stripFrom .literal cs := by
  fun_induction literalText w with
  | case1 => rfl
  | case2 c w ih =>
    rw [List.cons_append, List.cons_append, stripFrom, ih hw]
    rfl
  | case3 c w hescape ih =>
    simp only [Bool.and_eq_true, bne_iff_ne] at hw
    obtain ⟨⟨⟨hquote, hfeed⟩, hback⟩, hw⟩ := hw
    rw [List.cons_append, stripFrom]
    · simp [hquote, hfeed, ih hw]
    · exact fun _ _ hc => absurd hc hback

theorem stripFrom_line (hw : '\n' ∉ w) (hrest : rest.head?.any (· != '\n') = false) :
    stripFrom .lineComment (w ++ rest) = w.map blanked ++ stripFrom .code rest := by
  induction w with
  | nil =>
    cases rest with
    | nil => rfl
    | cons c rest =>
      obtain rfl : c = '\n' := by simpa using hrest
      rfl
  | cons c w ih =>
    obtain ⟨hc, hw⟩ := List.ne_and_not_mem_of_not_mem_cons hw
    rw [List.cons_append, stripFrom, if_neg (by simpa using hc.symm), ih hw]
    rfl

theorem stripFrom_unended (hw : ¬['*', '/'] <:+: w) : stripFrom .blockComment w = w.map blanked := by
  induction w with
  | nil => rfl
  | cons c w ih =>
    rw [stripFrom, ih fun hin => hw (List.infix_cons_iff.2 (.inr hin))]
    · rfl
    · rintro rest rfl rfl
      exact hw ⟨[], rest, rfl⟩

theorem stripFrom_block (hw : ¬['*', '/'] <:+: w) (rest : List Char) :
    stripFrom .blockComment (w ++ '*' :: '/' :: rest) =
      w.map blanked ++ ' ' :: ' ' :: stripFrom .code rest := by
  induction w with
  | nil => rfl
  | cons c w ih =>
    rw [List.cons_append, stripFrom, ih fun hin => hw (List.infix_cons_iff.2 (.inr hin))]
    · rfl
    · rintro cs rfl heq
      cases w with
      | nil => cases heq
      | cons d w =>
        obtain ⟨rfl, -⟩ := List.cons.inj heq
        exact hw ⟨[], w, rfl⟩

/-- One token is blanked as a whole or stays as a whole. -/
theorem stripComments_append (h : t.Leads rest) :
    stripComments (t.text ++ rest) = t.shown ++ stripComments rest := by
  unfold stripComments
  cases h with
  | closed hw | broken hw =>
    simp only [Token.text, Token.shown, Token.isComment, List.cons_append, List.append_assoc]
    -- The mark behind the literal is stripped too, so the reader is back outside any literal.
    rw [stripFrom]
    · simp [stripFrom_literalText hw, stripFrom]
    · simp
    · simp
  | unclosed hw =>
    have hend := stripFrom_literalText hw []
    simpa [Token.text, Token.shown, Token.isComment, stripFrom] using hend
  | escaping hw =>
    have hend := stripFrom_literalText hw ['\\']
    simpa [Token.text, Token.shown, Token.isComment, stripFrom] using hend
  | line hw hrest =>
    simp only [Token.text, Token.shown, Token.isComment, List.cons_append, stripFrom,
      stripFrom_line hw hrest]
    rfl
  | block hw =>
    simp only [Token.text, Token.shown, Token.isComment, List.cons_append, List.append_assoc, stripFrom,
      List.nil_append, stripFrom_block hw]
    simp [blanked]
  | unended hw =>
    simp only [Token.text, Token.shown, Token.isComment, List.append_nil, stripFrom, stripFrom_unended hw]
    rfl
  | character hquote hslash =>
    simp only [Token.text, Token.shown, Token.isComment, List.singleton_append]
    rw [stripFrom, if_neg (by simpa using hquote)]
    · rfl
    · rintro cs hc rfl
      exact (hslash hc).1 rfl
    · rintro cs hc rfl
      exact (hslash hc).2 rfl

theorem Tokenised.text_eq (h : Tokenised text ts) : text = ts.flatMap Token.text := by
  induction h with
  | nil => rfl
  | cons _ _ ih => rw [List.flatMap_cons, ← ih]

theorem Tokenised.stripComments_eq (h : Tokenised text ts) :
    stripComments text = ts.flatMap Token.shown := by
  induction h with
  | nil => rfl
  | cons hlead _ ih => rw [stripComments_append hlead, ih, List.flatMap_cons]

/-- Whether each character of the tokens is one of a comment. -/
def inComment (ts : List Token) : List Bool := ts.flatMap fun t => t.text.map fun _ => t.isComment

theorem flatMap_shown : ∀ ts : List Token, ts.flatMap Token.shown =
    List.zipWith (fun inside c => if inside = true then blanked c else c) (inComment ts)
      (ts.flatMap Token.text)
  | [] => rfl
  | t :: ts => by
    rw [inComment, List.flatMap_cons, List.flatMap_cons, List.flatMap_cons,
      List.zipWith_append (by simp), ← inComment, ← flatMap_shown ts, Token.shown, List.zipWith_map_left,
      List.zipWith_self]
    cases t.isComment <;> simp

theorem Tokenised.length_inComment (h : Tokenised text ts) : (inComment ts).length = text.length := by
  rw [h.text_eq, inComment, List.length_flatMap, List.length_flatMap]
  simp

theorem Tokenised.getElem?_inside (h : Tokenised text ts) {i : Nat}
    (hi : (inComment ts)[i]? = some true) : (stripComments text)[i]? = text[i]?.map blanked := by
  rw [h.stripComments_eq, flatMap_shown, ← h.text_eq, List.getElem?_zipWith, hi]
  cases text[i]? <;> rfl

theorem Tokenised.getElem?_outside (h : Tokenised text ts) {i : Nat}
    (hi : (inComment ts)[i]? = some false) : (stripComments text)[i]? = text[i]? := by
  rw [h.stripComments_eq, flatMap_shown, ← h.text_eq, List.getElem?_zipWith, hi]
  cases text[i]? <;> rfl

theorem blanked_eq_feed {c : Char} : blanked c = '\n' ↔ c = '\n' := by
  unfold blanked
  split <;> simp_all

/-- Line feeds stay where they are, and no other ones come in. -/
theorem Tokenised.feed_iff (h : Tokenised text ts) (i : Nat) :
    (stripComments text)[i]? = some '\n' ↔ text[i]? = some '\n' := by
  match hi : (inComment ts)[i]? with
  | none =>
    have hend : text.length ≤ i := h.length_inComment ▸ List.getElem?_eq_none_iff.1 hi
    have hend' : (stripComments text).length ≤ i := by rwa [stripComments, length_stripFrom]
    rw [List.getElem?_eq_none hend, List.getElem?_eq_none hend']
  | some false => rw [h.getElem?_outside hi]
  | some true => simp [h.getElem?_inside hi, blanked_eq_feed]

/-! ## Blanking comments again -/

/-- The tokens that are read in place of a token once comments are blanked. -/
def Token.stripped (t : Token) : List Token :=
  if t.isComment then t.shown.map .character else [t]

theorem Token.isComment_of_mem_stripped (t : Token) {s : Token} (hs : s ∈ t.stripped) : s.isComment = false := by
  unfold Token.stripped at hs
  split at hs
  · obtain ⟨c, -, rfl⟩ := List.mem_map.1 hs
    rfl
  · rename_i hcomment
    obtain rfl := List.mem_singleton.1 hs
    exact Bool.eq_false_iff.2 hcomment

theorem Token.flatMap_stripped (t : Token) : t.stripped.flatMap Token.shown = t.shown := by
  unfold Token.stripped
  split
  · rw [List.flatMap_map]
    exact List.flatMap_singleton' _
  · exact List.flatMap_singleton _ _

theorem tokenised_blanked (h : Tokenised text ts) : ∀ w : List Char,
    Tokenised (w.map blanked ++ text) ((w.map blanked).map .character ++ ts)
  | [] => h
  | c :: w => by
    have hblank : blanked c = '\n' ∨ blanked c = ' ' := by
      unfold blanked
      split <;> simp
    refine .cons (.character ?_ fun hslash => ?_) (tokenised_blanked h w)
    · rcases hblank with hb | hb <;> simp [hb]
    · rcases hblank with hb | hb <;> simp [hb] at hslash

/-- Where the text without comments begins with a character of code, the text begins with it. -/
theorem head?_of_stripComments {c : Char} (hc : c ≠ ' ') (h : (stripComments text).head? = some c) :
    text.head? = some c := by
  have hread := forall₂_stripFrom .code text
  obtain ⟨cs, hcs⟩ := List.head?_eq_some_iff.1 h
  rw [stripComments] at hcs
  rw [hcs] at hread
  cases hread with
  | cons hblank _ => exact congrArg some (hblank.resolve_right fun hs => hc hs.1).symm

/-- What is no comment is read as before when the comments behind it are blanked. -/
theorem Token.Leads.stripped (h : t.Leads rest) (ht : t.isComment = false) :
    t.Leads (stripComments rest) := by
  cases h with
  | closed hw => exact .closed hw
  | broken hw => exact .broken hw
  | unclosed hw => exact .unclosed hw
  | escaping hw => exact .escaping hw
  | line | block | unended => cases ht
  | character hquote hslash =>
    refine .character hquote fun hc => ⟨fun hn => ?_, fun hn => ?_⟩
    · exact (hslash hc).1 (head?_of_stripComments (by decide) hn)
    · exact (hslash hc).2 (head?_of_stripComments (by decide) hn)

/-- The tokens of a text without its comments. -/
theorem Tokenised.stripped (h : Tokenised text ts) :
    Tokenised (stripComments text) (ts.flatMap Token.stripped) := by
  induction h with
  | nil => exact .nil
  | @cons t rest ts hlead _ ih =>
    rw [stripComments_append hlead, List.flatMap_cons]
    cases ht : t.isComment with
    | true =>
      rw [Token.stripped, Token.shown, ht, if_pos rfl, if_pos rfl]
      exact tokenised_blanked ih t.text
    | false =>
      rw [Token.stripped, Token.shown, ht, if_neg Bool.false_ne_true, if_neg Bool.false_ne_true]
      exact .cons (hlead.stripped ht) ih

/-- Blanking comments twice is blanking them once. -/
theorem stripComments_stripComments (text : List Char) :
    stripComments (stripComments text) = stripComments text := by
  obtain ⟨ts, hts⟩ := exists_tokenised text
  rw [hts.stripped.stripComments_eq, hts.stripComments_eq, List.flatMap_assoc]
  exact List.flatMap_congr fun t _ => t.flatMap_stripped

theorem nul_notMem_stripComments (h : Char.ofNat 0 ∉ text) :
    Char.ofNat 0 ∉ stripComments text := by
  intro hmem
  obtain ⟨ts, hts⟩ := exists_tokenised text
  rw [hts.stripComments_eq] at hmem
  obtain ⟨t, ht, hmem⟩ := List.mem_flatMap.1 hmem
  unfold Token.shown at hmem
  split at hmem
  · obtain ⟨c, -, hc⟩ := List.mem_map.1 hmem
    unfold blanked at hc
    split at hc <;> exact absurd hc (by decide)
  · exact h (hts.text_eq ▸ List.mem_flatMap.2 ⟨t, ht, hmem⟩)

/-- Blanking comments is faithful to the places of a text and to what the text declares: with the one
reading of the text into tokens, a character changes just where it is one of a comment and no line feed,
and there it is a space. What is left has no comments, so it stays as it is when blanked again, and
the same is extracted from it. -/
theorem stripComments_faithful (text : List Char) : ∃ ts, Tokenised text ts ∧
    (∀ ts', Tokenised text ts' → ts' = ts) ∧
    (stripComments text).length = text.length ∧
    (inComment ts).length = text.length ∧
    (∀ i : Nat, (stripComments text)[i]? = some '\n' ↔ text[i]? = some '\n') ∧
    (∀ i : Nat, (inComment ts)[i]? = some false → (stripComments text)[i]? = text[i]?) ∧
    (∀ i : Nat, (inComment ts)[i]? = some true → text[i]? ≠ some '\n' →
      (stripComments text)[i]? = some ' ') ∧
    stripComments (stripComments text) = stripComments text ∧
    (∀ ts', Tokenised (stripComments text) ts' → ∀ t ∈ ts', t.isComment = false) ∧
    (Char.ofNat 0 ∉ text → ∀ file, extract file (stripComments text) = extract file text) := by
  obtain ⟨ts, hts⟩ := exists_tokenised text
  refine ⟨ts, hts, fun ts' h => h.unique hts, length_stripFrom _ _, hts.length_inComment, hts.feed_iff,
    fun i hi => hts.getElem?_outside hi, fun i hi hfeed => ?_, stripComments_stripComments text,
    fun ts' h t ht => ?_, fun hclean file => ?_⟩
  · -- a comment does not reach behind the end of the text, so some character is blanked
    obtain ⟨hlt, -⟩ := List.getElem?_eq_some_iff.1 hi
    rw [hts.length_inComment] at hlt
    rw [List.getElem?_eq_getElem hlt] at hfeed
    have hother : text[i] ≠ '\n' := fun he => hfeed (congrArg some he)
    rw [hts.getElem?_inside hi, List.getElem?_eq_getElem hlt]
    simp [blanked, hother]
  · rw [h.unique hts.stripped] at ht
    obtain ⟨s, -, hs⟩ := List.mem_flatMap.1 ht
    exact s.isComment_of_mem_stripped hs
  · rw [extract_eq_ok (nul_notMem_stripComments hclean), extract_eq_ok hclean,
      stripComments_stripComments]

/-- A module with a quote in a comment and a mark of a comment in a literal. -/
def quotedMark : List Char := "module m; /* \" */ wire w = \"//\"; // \"\nendmodule\n".toList

/-- Both comments are blanked, the literal between them stays, and the same is extracted. -/
theorem stripComments_faithful_quotedMark : Char.ofNat 0 ∉ quotedMark ∧
    stripComments quotedMark = "module m;         wire w = \"//\";     \nendmodule\n".toList ∧
    extract ⟨.root, ["a.v"]⟩ (stripComments quotedMark) = extract ⟨.root, ["a.v"]⟩ quotedMark := by
  have hclean : Char.ofNat 0 ∉ quotedMark := by decide
  obtain ⟨ts, -, -, -, -, -, -, -, -, -, hsame⟩ := stripComments_faithful quotedMark
  exact ⟨hclean, by decide, hsame hclean _⟩

end RtlAtlas.Source
