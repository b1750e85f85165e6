/-
Well-nested texts. Every bracket of such a text is closed by one of its kind, so a reader that follows
brackets passes over the text as a whole: the search for a closing bracket goes on behind it, and a
split at commas goes on behind it unless one stands outside of all brackets.
-/
import RtlAtlas.Proofs.Source.Cursor

namespace RtlAtlas.Source

/-- A text whose brackets are well nested, with characters of one sort outside of them. -/
inductive Nested : (Char → Prop) → List Char → Prop
  | nil {out : Char → Prop} : Nested out []
  | char {out : Char → Prop} {x : Char} {cs : List Char} :
      nesting x = 0 → out x → Nested out cs → Nested out (x :: cs)
  | group {out : Char → Prop} {left right : Char} {inside cs : List Char} :
      closer? left = some right → Nested (fun _ => True) inside → Nested out cs →
      Nested out (left :: (inside ++ right :: cs))

variable {out : Char → Prop} {a cs : List Char} {left right : Char}

namespace Nested

theorem append {b : List Char} (ha : Nested out a) (hb : Nested out b) : Nested out (a ++ b) := by
  induction ha with
  | nil => exact hb
  | char hx hout _ ih => exact .char hx hout (ih hb)
  | group hpair hin _ _ ih =>
    rw [List.cons_append, List.append_assoc, List.cons_append]
    exact .group hpair hin (ih hb)

theorem mono {out' : Char → Prop} (h : Nested out a) (hle : ∀ x, out x → out' x) : Nested out' a := by
  induction h with
  | nil => exact .nil
  | char hx hout _ ih => exact .char hx (hle _ hout) (ih hle)
  | group hpair hin _ _ ih => exact .group hpair hin (ih hle)

/-- A text without brackets is well nested. -/
theorem of_forall : ∀ {text : List Char}, (∀ x ∈ text, nesting x = 0 ∧ out x) → Nested out text
  | [], _ => .nil
  | x :: _, h =>
    .char (h x (List.mem_cons_self ..)).1 (h x (List.mem_cons_self ..)).2
      (of_forall fun y hy => h y (List.mem_cons_of_mem _ hy))

theorem flatMap {α : Type} {f : α → List Char} : ∀ {xs : List α}, (∀ x ∈ xs, Nested out (f x)) →
    Nested out (xs.flatMap f)
  | [], _ => .nil
  | x :: _, h => by
    rw [List.flatMap_cons]
    exact (h x (List.mem_cons_self ..)).append (flatMap fun y hy => h y (List.mem_cons_of_mem _ hy))

end Nested

/-! ## Closing brackets -/

theorem nesting_eq_zero {x : Char} : nesting x = 0 ↔ closer? x = none ∧ isCloser x = false := by
  unfold nesting isOpener
  cases closer? x <;> cases isCloser x <;> simp

/-- What is no bracket does not change the depth. -/
theorem nesting_of_notMem {x : Char} (h : x ∉ ['(', '[', '{', ')', ']', '}']) : nesting x = 0 := by
  simp only [List.mem_cons, List.not_mem_nil, or_false, not_or] at h
  obtain ⟨h1, h2, h3, h4, h5, h6⟩ := h
  refine nesting_eq_zero.2 ⟨?_, by simp [isCloser, h4, h5, h6]⟩
  unfold closer?
  split <;> first | rfl | contradiction

theorem of_closer? (h : closer? left = some right) :
    isOpener left = true ∧ left ≠ ',' ∧ closer? right = none ∧ isCloser right = true ∧ right ≠ ',' := by
  unfold closer? at h
  split at h
  all_goals first
    | cases h
      decide
    | cases h

theorem nesting_left (h : closer? left = some right) : nesting left = 1 := by
  unfold nesting
  rw [if_pos (of_closer? h).1]

theorem nesting_right (h : closer? left = some right) : nesting right = -1 := by
  obtain ⟨-, -, hnone, hcloser, -⟩ := of_closer? h
  unfold nesting isOpener
  rw [hnone, hcloser]
  rfl

theorem closeFrom_char {x : Char} (hx : nesting x = 0) (owed cs : List Char) :
    closeFrom owed (x :: cs) = (closeFrom owed cs).map (· + 1) := by
  obtain ⟨hnone, hcloser⟩ := nesting_eq_zero.1 hx
  rw [closeFrom.eq_def]
  simp [hnone, hcloser]

theorem closeFrom_left (hpair : closer? left = some right) (owed cs : List Char) :
    closeFrom owed (left :: cs) = (closeFrom (right :: owed) cs).map (· + 1) := by
  rw [closeFrom.eq_def]
  simp [hpair]

theorem closeFrom_right (hpair : closer? left = some right) (owed cs : List Char) :
    closeFrom (right :: owed) (right :: cs) =
      if owed = [] then some 0 else (closeFrom owed cs).map (· + 1) := by
  obtain ⟨-, -, hnone, hcloser, -⟩ := of_closer? hpair
  rw [closeFrom.eq_def]
  simp [hnone, hcloser]

/-- The search for the bracket that closes the owed ones goes on behind a well-nested text. -/
theorem closeFrom_nested (h : Nested out a) {owed : List Char} (howed : owed ≠ []) (cs : List Char) :
    closeFrom owed (a ++ cs) = (closeFrom owed cs).map (· + a.length) := by
  induction h generalizing owed cs with
  | nil => simp
  | char hx _ _ ih =>
    rw [List.cons_append, closeFrom_char hx, ih howed, Option.map_map]
    rfl
  | group hpair _ _ ihin ih =>
    -- the group owes one bracket more, and its own closing bracket pays it back
    rw [List.cons_append, List.append_assoc, List.cons_append, closeFrom_left hpair,
      ihin (List.cons_ne_nil _ _), closeFrom_right hpair, if_neg howed, ih howed]
    simp only [Option.map_map, List.length_cons, List.length_append]
    congr 1
    funext n
    simp only [Function.comp]
    omega

/-- The bracket that closes a well-nested group is the one right behind its inside. -/
theorem closing?_group (hpair : closer? left = some right) (h : Nested out a) (cs : List Char) :
    closing? (left :: (a ++ right :: cs)) = some (a.length + 1) := by
  rw [closing?, hpair, Option.bind_some, closeFrom_nested h (List.cons_ne_nil _ _),
    closeFrom_right hpair, if_pos rfl]
  simp

theorem enclosed?_group (hpair : closer? left = some right) (h : Nested out a) (offset : Nat)
    (last : Option Char) (cs : List Char) :
    (⟨offset, last, left :: (a ++ right :: cs)⟩ : Cursor).enclosed? =
      some (a, ⟨offset + a.length + 2, some right, cs⟩) := by
  have hbehind : (⟨offset, last, left :: (a ++ right :: cs)⟩ : Cursor).advance (a.length + 2) =
      ⟨offset + a.length + 2, some right, cs⟩ := by
    have h := Cursor.advance_append (left :: (a ++ [right])) cs offset last
    rw [List.cons_append, List.append_assoc, List.singleton_append] at h
    simpa [List.getLast?_cons, Nat.add_assoc] using h
  unfold Cursor.enclosed?
  rw [closing?_group hpair h]
  simpa using hbehind

/-- A bracket that is opened in a well-nested text is closed in it. -/
theorem Nested.group_of_suffix (h : Nested out a) {l r : Char} (hpair : closer? l = some r) {b : List Char}
    (hb : l :: b <:+ a) : ∃ inside cs, b = inside ++ r :: cs ∧ Nested (fun _ => True) inside := by
  -- by induction on the nesting: the bracket is a group's own, or stands inside it or behind it
  induction h generalizing b with
  | nil => cases List.suffix_nil.1 hb
  | char hx _ _ ih =>
    rcases List.suffix_cons_iff.1 hb with he | hb
    · obtain ⟨rfl, -⟩ := List.cons.inj he
      rw [nesting_left hpair] at hx
      cases hx
    · exact ih hb
  | @group _ left right inside cs hgroup hin _ ihin ih =>
    rcases List.suffix_cons_iff.1 hb with he | hb
    · obtain ⟨rfl, rfl⟩ := List.cons.inj he
      obtain rfl : r = right := Option.some.inj (hpair.symm.trans hgroup)
      exact ⟨inside, cs, rfl, hin⟩
    · -- what closes a group opens none
      have hbehind : ∀ {b : List Char}, l :: b <:+ right :: cs →
          ∃ inside cs, b = inside ++ r :: cs ∧ Nested (fun _ => True) inside := by
        intro b hb
        rcases List.suffix_cons_iff.1 hb with he | hb
        · obtain ⟨rfl, -⟩ := List.cons.inj he
          rw [(of_closer? hgroup).2.2.1] at hpair
          cases hpair
        · exact ih hb
      rcases List.suffix_or_suffix_of_suffix hb (List.suffix_append inside (right :: cs)) with hb | ⟨w, hw⟩
      · exact hbehind hb
      · cases w with
        | nil =>
          rw [List.nil_append] at hw
          exact hbehind (hw ▸ List.suffix_rfl)
        | cons y w =>
          -- the suffix starts inside the group, and ends there as the inside is nested itself
          obtain ⟨rfl, rfl⟩ := List.cons.inj hw
          obtain ⟨t, ht⟩ := hb
          rw [← hw, ← List.append_assoc] at ht
          obtain ⟨inside', cs', rfl, hin'⟩ := ihin ⟨t, List.append_cancel_right ht⟩
          exact ⟨inside', cs' ++ right :: cs, by simp, hin'⟩

/-- The last bracket to be closed is the one that is owed first. -/
theorem getElem?_closeFrom : ∀ {cs owed : List Char} {n : Nat}, owed ≠ [] →
    closeFrom owed cs = some n → cs[n]? = owed.getLast?
  | [], _, _, _, h => by simp [closeFrom] at h
  | x :: cs, owed, n, howed, h => by
    have hstep : ∀ {owed' : List Char}, owed' ≠ [] → owed'.getLast? = owed.getLast? →
        (closeFrom owed' cs).map (· + 1) = some n → (x :: cs)[n]? = owed.getLast? := by
      intro owed' hne hlast h
      obtain ⟨m, hm, rfl⟩ := Option.map_eq_some_iff.1 h
      rw [List.getElem?_cons_succ, getElem?_closeFrom hne hm, hlast]
    -- Every step but the last leaves the outermost mark owed where it was.
    unfold closeFrom at h
    split at h
    · exact hstep (List.cons_ne_nil _ _) (List.getLast?_cons_of_ne_nil howed) h
    · split at h
      · split at h
        · cases h
        · rename_i d owed'
          split at h
          · cases h
          · rename_i hsame
            split at h
            · rename_i hempty
              cases h
              rw [List.isEmpty_iff.1 hempty, List.getElem?_cons_zero]
              simpa using hsame
            · rename_i hempty
              have hne : owed' ≠ [] := fun he => hempty (List.isEmpty_iff.2 he)
              exact hstep hne (List.getLast?_cons_of_ne_nil hne).symm h
      · exact hstep howed rfl h

/-- Behind a text in which not all is closed, something is still owed. -/
theorem closeFrom_append : ∀ {a cs owed : List Char} {n : Nat}, owed ≠ [] →
    closeFrom owed (a ++ cs) = some n → a.length ≤ n →
    ∃ owed', owed' ≠ [] ∧ closeFrom owed' cs = some (n - a.length)
  | [], _, owed, _, howed, h, _ => ⟨owed, howed, h⟩
  | x :: a, cs, owed, n, howed, h, hle => by
    have hstep : ∀ {owed' : List Char}, owed' ≠ [] → (closeFrom owed' (a ++ cs)).map (· + 1) = some n →
        ∃ owed'', owed'' ≠ [] ∧ closeFrom owed'' cs = some (n - (x :: a).length) := by
      intro owed' hne h
      obtain ⟨m, hm, rfl⟩ := Option.map_eq_some_iff.1 h
      have hrest := closeFrom_append hne hm (Nat.le_of_succ_le_succ hle)
      rwa [List.length_cons, Nat.add_sub_add_right]
    rw [List.cons_append] at h
    unfold closeFrom at h
    split at h
    · exact hstep (List.cons_ne_nil _ _) h
    · split at h
      · split at h
        · cases h
        · split at h
          · cases h
          · split at h
            · cases h
              cases hle
            · rename_i hempty
              exact hstep (fun he => hempty (List.isEmpty_iff.2 he)) h
      · exact hstep howed h

/-- What is owed besides is closed behind. -/
theorem closeFrom_more {owed : List Char} (howed : owed ≠ []) : ∀ {cs first : List Char} {n : Nat},
    first ≠ [] → closeFrom first cs = some n →
    closeFrom (first ++ owed) cs = (closeFrom owed (cs.drop (n + 1))).map (· + (n + 1))
  | [], _, _, _, h => by simp [closeFrom] at h
  | x :: cs, first, n, hfirst, h => by
    -- one character on, whatever is owed by then
    have hstep : ∀ {first' : List Char}, first' ≠ [] → (closeFrom first' cs).map (· + 1) = some n →
        (closeFrom (first' ++ owed) cs).map (· + 1) =
          (closeFrom owed ((x :: cs).drop (n + 1))).map (· + (n + 1)) := by
      intro first' hne h
      obtain ⟨m, hm, rfl⟩ := Option.map_eq_some_iff.1 h
      rw [closeFrom_more howed hne hm, List.drop_succ_cons, Option.map_map]
      rfl
    unfold closeFrom at h
    rw [closeFrom.eq_def]
    split at h
    · -- an opening bracket: one more is owed before `owed`
      rename_i right hpair
      simp only [hpair]
      exact hstep (List.cons_ne_nil _ _) h
    · rename_i hnone
      simp only [hnone]
      split at h
      · -- a closing bracket pays the first that is owed
        rename_i hcloser
        rw [if_pos hcloser]
        split at h
        · cases h
        · rename_i d first'
          split at h
          · cases h
          · rename_i hsame
            simp only [List.cons_append, if_neg hsame]
            split at h
            · -- nothing of `first` is left, so the rest is read for `owed` alone
              rename_i hempty
              cases h
              rw [List.isEmpty_iff.1 hempty, List.nil_append, if_neg (by simpa using howed)]
              rfl
            · rename_i hempty
              have hne : first' ≠ [] := fun he => hempty (List.isEmpty_iff.2 he)
              rw [if_neg (by simp [hne])]
              exact hstep hne h
      · -- any other character leaves what is owed
        rename_i hcloser
        rw [if_neg hcloser]
        exact hstep hfirst h

/-- Two brackets are not closed by the same one. -/
theorem closing?_nested {b c : List Char} (h : closing? ('(' :: (b ++ ')' :: c)) = some (b.length + 1))
    (a : List Char) :
    closing? ('(' :: (a ++ '(' :: (b ++ ')' :: c))) ≠ some ((a ++ '(' :: b).length + 1) := by
  intro houter
  have hclosing : ∀ cs, closing? ('(' :: cs) = (closeFrom [')'] cs).map (· + 1) := fun _ => rfl
  rw [hclosing] at h houter
  obtain ⟨n, hn, hlength⟩ := Option.map_eq_some_iff.1 h
  obtain ⟨m, hm, hlengths⟩ := Option.map_eq_some_iff.1 houter
  rw [List.length_append, List.length_cons] at hlengths
  -- behind the inner bracket its own closing one and another are owed
  obtain ⟨owed, howed, hinner⟩ := closeFrom_append (List.cons_ne_nil _ _) hm (by omega)
  have hround : closer? '(' = some ')' := rfl
  rw [closeFrom_left hround, show ')' :: owed = [')'] ++ owed from rfl,
    closeFrom_more howed (List.cons_ne_nil _ _) hn, Option.map_map] at hinner
  obtain ⟨k, -, hk⟩ := Option.map_eq_some_iff.1 hinner
  simp only [Function.comp] at hk
  omega

/-! ## Splitting at commas -/

theorem splitFrom_cons {x : Char} {offset : Nat} {depth : Int} {s : Segment} {ss : List Segment}
    (hx : x = ',' → depth ≠ 0) (h : splitFrom (offset + 1) (depth + nesting x) cs = s :: ss) :
    splitFrom offset depth (x :: cs) = ⟨x :: s.text, offset⟩ :: ss := by
  rw [splitFrom, h, if_neg]
  simpa using hx

/-- Splitting goes on behind a well-nested text unless one of its commas counts. -/
theorem splitFrom_nested (h : Nested out a) {offset : Nat} {depth : Int} (hdepth : 0 ≤ depth)
    (hcomma : out ',' → depth ≠ 0) {s : Segment} {ss : List Segment}
    (hs : splitFrom (offset + a.length) depth cs = s :: ss) :
    splitFrom offset depth (a ++ cs) = ⟨a ++ s.text, offset⟩ :: ss := by
  induction h generalizing offset depth s ss cs with
  | nil =>
    have hoffset : s.offset = offset := by
      cases cs with
      | nil => cases hs; rfl
      | cons x cs =>
        unfold splitFrom at hs
        split at hs
        · cases hs; rfl
        · split at hs <;> (cases hs; rfl)
    subst hoffset
    exact hs
  | @char _ x _ hx hout _ ih =>
    refine splitFrom_cons (fun hc => hcomma (hc ▸ hout)) (s := ⟨_, offset + 1⟩) ?_
    rw [hx, Int.add_zero]
    refine ih hdepth hcomma (s := s) ?_
    rw [List.length_cons] at hs
    rwa [Nat.add_right_comm]
  | @group _ left right inside after hpair _ _ ihin ih =>
    obtain ⟨-, hleft, -, -, hright⟩ := of_closer? hpair
    rw [List.cons_append, List.append_assoc, List.cons_append]
    have hafter : splitFrom (offset + 1 + inside.length + 1) depth (after ++ cs) =
        ⟨after ++ s.text, offset + 1 + inside.length + 1⟩ :: ss := by
      refine ih hdepth hcomma ?_
      rw [← hs]
      congr 1
      simp only [List.length_cons, List.length_append]
      omega
    rw [show depth = depth + 1 + nesting right by rw [nesting_right hpair]; omega] at hafter
    have hclosed := splitFrom_cons (fun hc => absurd hc hright) hafter
    -- inside of the brackets the depth is positive, so no comma counts there
    have hinside := ihin (by omega) (fun _ => by omega) hclosed
    rw [← nesting_left hpair] at hinside
    rw [splitFrom_cons (fun hc => absurd hc hleft) hinside]
    simp

/-- The segments that follow one another with a character between neighbours. -/
def segmentsFrom (offset : Nat) : List (List Char) → List Segment
  | [] => []
  | t :: ts => ⟨t, offset⟩ :: segmentsFrom (offset + t.length + 1) ts

/-- Splitting undoes joining, when no part has a comma outside of its brackets. -/
theorem splitTopLevel_join : ∀ {t : List Char} {ts : List (List Char)},
    (∀ u ∈ t :: ts, Nested (· ≠ ',') u) → ∀ (offset : Nat),
    splitTopLevel ([','].intercalate (t :: ts)) offset = segmentsFrom offset (t :: ts)
  | t, [], h, offset => by
    have hempty : splitFrom (offset + t.length) 0 [] = [⟨[], offset + t.length⟩] := rfl
    have := splitFrom_nested (h t (List.mem_cons_self ..)) (Int.le_refl 0)
      (fun hc => absurd rfl hc) hempty
    simpa [splitTopLevel, List.intercalate, segmentsFrom] using this
  | t, u :: ts, h, offset => by
    have hrest := splitTopLevel_join (fun v hv => h v (List.mem_cons_of_mem _ hv))
      (offset + t.length + 1)
    have hcut : splitFrom (offset + t.length) 0 (',' :: [','].intercalate (u :: ts)) =
        ⟨[], offset + t.length⟩ ::
          splitTopLevel ([','].intercalate (u :: ts)) (offset + t.length + 1) := rfl
    have := splitFrom_nested (h t (List.mem_cons_self ..)) (Int.le_refl 0)
      (fun hc => absurd rfl hc) hcut
    rw [List.intercalate_cons_cons, List.append_assoc, List.singleton_append, splitTopLevel, this,
      segmentsFrom, ← hrest, List.append_nil]

/-- A space behind the separator may as well stand in front of the next part. -/
theorem intercalate_space : ∀ (t : List Char) (ts : List (List Char)),
    [',', ' '].intercalate (t :: ts) = [','].intercalate (t :: ts.map (' ' :: ·))
  | t, [] => rfl
  | t, u :: ts => by
    have hpull : [','].intercalate ((' ' :: u) :: ts.map (' ' :: ·)) =
        ' ' :: [','].intercalate (u :: ts.map (' ' :: ·)) := by
      cases ts <;> simp [List.intercalate_cons_cons]
    rw [List.intercalate_cons_cons, List.map_cons, List.intercalate_cons_cons, intercalate_space u ts,
      hpull]
    simp

/-! ## Cutting at a separator -/

/-- Cutting goes on behind a well-nested text unless one of its separators counts. -/
theorem cutFrom_nested {sep : Char} (h : Nested out a) {depth : Int} (hdepth : 0 ≤ depth)
    (hsep : out sep → depth ≠ 0) (cs : List Char) :
    cutFrom sep depth (a ++ cs) = a ++ cutFrom sep depth cs := by
  induction h generalizing depth cs with
  | nil => rfl
  | @char _ x _ hx hout _ ih =>
    have hne : ¬(x = sep ∧ depth = 0) := fun hc => hsep (hc.1 ▸ hout) hc.2
    rw [List.cons_append, cutFrom, if_neg (by simpa using fun _ _ => not_and.1 hne), hx, Int.add_zero,
      ih hdepth hsep, List.cons_append]
  | @group _ left right inside after hpair _ _ ihin ih =>
    obtain ⟨hopener, -, -, hcloser, -⟩ := of_closer? hpair
    rw [List.cons_append, List.append_assoc, List.cons_append, cutFrom, if_neg (by simp [hopener]),
      nesting_left hpair, ihin (by omega) (fun _ => by omega), cutFrom, if_neg (by simp [hcloser]),
      nesting_right hpair, show depth + 1 + -1 = depth by omega, ih hdepth hsep]
    simp

/-- A text without the separator outside of its brackets is not cut. -/
theorem cutTopLevel_nested {sep : Char} (h : Nested out a) (hsep : ¬out sep) :
    cutTopLevel a sep = a := by
  have := cutFrom_nested h (Int.le_refl 0) (fun hc => absurd hc hsep) []
  simpa [cutTopLevel, cutFrom] using this

end RtlAtlas.Source
