/-
Splitting at the commas outside brackets. The segments of a text follow one another with a comma between
neighbours, so joining them gives the text back and each stands in it at its offset. What two matching
brackets enclose is well nested, and then so is every segment, with no comma outside of its brackets: the
depth that splitting counts and the brackets that matching owes agree on what stands outside.
-/
import RtlAtlas.Proofs.Source.Matching

namespace RtlAtlas.Source

variable {text cs : List Char} {s : Segment} {offset o c : Nat}

/-! ## Joining the segments -/

theorem splitFrom_comma (offset : Nat) (cs : List Char) :
    splitFrom offset 0 (',' :: cs) = ⟨[], offset⟩ :: splitFrom (offset + 1) 0 cs := rfl

/-- What is put in front of the first part is put in front of the joined text. -/
theorem intercalate_append_cons (a t : List Char) (ts : List (List Char)) :
    [','].intercalate ((a ++ t) :: ts) = a ++ [','].intercalate (t :: ts) := by
  cases ts with
  | nil => simp
  | cons u ts => simp [List.intercalate_cons_cons]

/-- Whatever the depth, a text is split into segments that follow one another and join to the text. -/
theorem exists_splitFrom : ∀ (cs : List Char) (offset : Nat) (depth : Int), ∃ t ts,
    splitFrom offset depth cs = segmentsFrom offset (t :: ts) ∧ [','].intercalate (t :: ts) = cs
  | [], offset, depth => ⟨[], [], rfl, rfl⟩
  | x :: cs, offset, depth => by
    by_cases hcut : x = ',' ∧ depth = 0
    · obtain ⟨rfl, rfl⟩ := hcut
      obtain ⟨t, ts, hsplit, hjoin⟩ := exists_splitFrom cs (offset + 1) 0
      refine ⟨[], t :: ts, ?_, ?_⟩
      · rw [splitFrom_comma, hsplit]
        rfl
      · rw [List.intercalate_cons_cons, hjoin]
        rfl
    · obtain ⟨t, ts, hsplit, hjoin⟩ := exists_splitFrom cs (offset + 1) (depth + nesting x)
      refine ⟨x :: t, ts, ?_, ?_⟩
      · rw [splitFrom_cons (fun hx hd => hcut ⟨hx, hd⟩) hsplit, segmentsFrom, List.length_cons]
        congr 2
        omega
      · rw [← hjoin]
        exact intercalate_append_cons [x] t ts

theorem map_text_segmentsFrom : ∀ (ts : List (List Char)) (offset : Nat),
    (segmentsFrom offset ts).map (·.text) = ts
  | [], _ => rfl
  | t :: ts, offset => congrArg (t :: ·) (map_text_segmentsFrom ts (offset + t.length + 1))

/-- A segment stands in the joined text as far behind its start as its offset says. -/
theorem place_of_mem_segmentsFrom : ∀ {ts : List (List Char)} {offset : Nat}, s ∈ segmentsFrom offset ts →
    ∃ front behind, [','].intercalate ts = front ++ s.text ++ behind ∧ s.offset = offset + front.length
  | t :: ts, offset, h => by
    rcases List.mem_cons.1 h with rfl | h
    · cases ts with
      | nil => exact ⟨[], [], by simp, rfl⟩
      | cons u ts => exact ⟨[], ',' :: [','].intercalate (u :: ts), by simp [List.intercalate_cons_cons], rfl⟩
    · obtain ⟨front, behind, hjoin, hoffset⟩ := place_of_mem_segmentsFrom h
      cases ts with
      | nil => cases h
      | cons u ts =>
        refine ⟨t ++ ',' :: front, behind, ?_, ?_⟩
        · rw [List.intercalate_cons_cons, hjoin]
          simp
        · rw [hoffset, List.length_append, List.length_cons]
          omega

theorem pairwise_segmentsFrom : ∀ (ts : List (List Char)) (offset : Nat),
    (segmentsFrom offset ts).Pairwise (·.offset < ·.offset)
  | [], _ => .nil
  | t :: ts, offset => by
    refine List.pairwise_cons.2 ⟨fun s hs => ?_, pairwise_segmentsFrom ts _⟩
    obtain ⟨front, -, -, hoffset⟩ := place_of_mem_segmentsFrom hs
    rw [hoffset]
    show offset < offset + t.length + 1 + front.length
    omega

/-! ## Splitting what is well nested -/

/-- A well-nested text is the join of well-nested ones without a comma outside of their brackets. -/
theorem Nested.exists_join (h : Nested (fun _ => True) cs) :
    ∃ t ts, cs = [','].intercalate (t :: ts) ∧ ∀ u ∈ t :: ts, Nested (· ≠ ',') u := by
  generalize hout : (fun _ : Char => True) = out at h
  induction h with
  | nil => exact ⟨[], [], rfl, by simp [Nested.nil]⟩
  | @char _ x cs hx _ _ ih =>
    obtain ⟨t, ts, rfl, hts⟩ := ih hout
    rw [List.forall_mem_cons] at hts
    by_cases hcomma : x = ','
    · subst hcomma
      refine ⟨[], t :: ts, by simp [List.intercalate_cons_cons], ?_⟩
      simpa [Nested.nil] using hts
    · exact ⟨x :: t, ts, (intercalate_append_cons [x] t ts).symm,
        List.forall_mem_cons.2 ⟨.char hx hcomma hts.1, hts.2⟩⟩
  | @group _ left right inside cs hpair hinside _ _ ih =>
    obtain ⟨t, ts, rfl, hts⟩ := ih hout
    rw [List.forall_mem_cons] at hts
    refine ⟨left :: (inside ++ right :: t), ts, ?_,
      List.forall_mem_cons.2 ⟨.group hpair hinside hts.1, hts.2⟩⟩
    have hfront := intercalate_append_cons (left :: (inside ++ [right])) t ts
    simpa using hfront.symm

/-- Every segment of a well-nested text is well nested, and no comma stands outside of its brackets. -/
theorem Nested.segments (h : Nested (fun _ => True) cs) (hs : s ∈ splitTopLevel cs offset) :
    Nested (· ≠ ',') s.text := by
  obtain ⟨t, ts, rfl, hts⟩ := h.exists_join
  rw [splitTopLevel_join hts] at hs
  refine hts _ ?_
  rw [← map_text_segmentsFrom (t :: ts) offset]
  exact List.mem_map_of_mem hs

/-- A bracket that is found closes the one at the index. -/
theorem closes_of_findMatching (h : findMatching text o = some c) : Closes text o c := by
  rcases closes_or_not text o with ⟨c', hc'⟩ | hnone | hmismatched | hunended
  · obtain rfl : c' = c := Option.some.inj (hc'.findMatching_eq.symm.trans h)
    exact hc'
  · cases hnone.findMatching_eq.symm.trans h
  · cases hmismatched.findMatching_eq.symm.trans h
  · cases hunended.findMatching_eq.symm.trans h

theorem slice_append (a m b : List Char) :
    ((a ++ (m ++ b)).take (a.length + m.length)).drop a.length = m := by
  rw [← List.append_assoc, ← List.length_append, List.take_left, List.drop_left]

/-- What matching brackets enclose is well nested. -/
theorem nested_of_findMatching (h : findMatching text o = some c) :
    Nested (fun _ => True) ((text.take c).drop (o + 1)) := by
  obtain ⟨front, left, inside, right, behind, rfl, rfl, rfl, -, hinside⟩ := closes_of_findMatching h
  have hslice := slice_append (front ++ [left]) inside (right :: behind)
  rw [List.append_assoc, List.singleton_append, List.length_append, List.length_singleton,
    Nat.add_right_comm] at hslice
  rw [hslice]
  exact nested_iff_wellNested.2 hinside

/-- The segments of a part of a text follow one another from its start and join to it. -/
theorem exists_splitRange (text : List Char) (start stop : Nat) : ∃ ts,
    splitRange text start stop = segmentsFrom start ts ∧
      [','].intercalate ts = (text.take stop).drop start := by
  obtain ⟨t, ts, hsplit, hjoin⟩ := exists_splitFrom ((text.take stop).drop start) start 0
  exact ⟨t :: ts, hsplit, hjoin⟩

/-- A segment of a part of a text stands in the text at its offset. -/
theorem slice_of_mem_splitRange {start stop : Nat} (hle : start ≤ stop) (hstop : stop ≤ text.length)
    (hs : s ∈ splitRange text start stop) :
    (text.take (s.offset + s.text.length)).drop s.offset = s.text := by
  obtain ⟨ts, hsplit, hjoin⟩ := exists_splitRange text start stop
  rw [hsplit] at hs
  obtain ⟨front, behind, hplace, hoffset⟩ := place_of_mem_segmentsFrom hs
  have hlead : (text.take start ++ front).length = s.offset := by
    rw [List.length_append, List.length_take_of_le (Nat.le_trans hle hstop), hoffset]
  have htext : (text.take start ++ front) ++ (s.text ++ (behind ++ text.drop stop)) = text :=
    calc (text.take start ++ front) ++ (s.text ++ (behind ++ text.drop stop))
        = text.take start ++ (front ++ s.text ++ behind) ++ text.drop stop := by
          simp only [List.append_assoc]
      _ = (text.take stop).take start ++ (text.take stop).drop start ++ text.drop stop := by
          rw [← hplace, hjoin, List.take_take, Nat.min_eq_left hle]
      _ = text := by rw [List.take_append_drop, List.take_append_drop]
  have hslice := slice_append (text.take start ++ front) s.text (behind ++ text.drop stop)
  rwa [htext, hlead] at hslice

/-- Splitting a part of a text loses nothing: the segments, joined by commas, are that part, each stands in
the text at its offset, and the offsets increase. Where the part is what two matching brackets enclose, each
segment is well nested and has no comma outside of its brackets. -/
theorem splitRange_faithful (text : List Char) :
    (∀ start stop, start ≤ stop → stop ≤ text.length →
      [','].intercalate ((splitRange text start stop).map (·.text)) = (text.take stop).drop start ∧
      (∀ s ∈ splitRange text start stop,
        (text.take (s.offset + s.text.length)).drop s.offset = s.text) ∧
      (splitRange text start stop).Pairwise (·.offset < ·.offset)) ∧
    ∀ o c, findMatching text o = some c →
      ∀ s ∈ splitRange text (o + 1) c, Nested (· ≠ ',') s.text := by
  refine ⟨fun start stop hle hstop => ?_, fun o c hfound s hs => (nested_of_findMatching hfound).segments hs⟩
  obtain ⟨ts, hsplit, hjoin⟩ := exists_splitRange text start stop
  refine ⟨?_, fun s hs => slice_of_mem_splitRange hle hstop hs, ?_⟩
  · rw [hsplit, map_text_segmentsFrom, hjoin]
  · rw [hsplit]
    exact pairwise_segmentsFrom ts start

/-- Behind a stray closing bracket other commas separate, and yet nothing is lost; between two matching
brackets the commas outside of the inner ones separate. -/
theorem splitRange_faithful_strayBracket :
    (splitRange "x),(a,[b,c])".toList 0 12).map (·.text) = ["x),(a".toList, "[b,c])".toList] ∧
      [','].intercalate ((splitRange "x),(a,[b,c])".toList 0 12).map (·.text)) = "x),(a,[b,c])".toList ∧
      findMatching "x),(a,[b,c])".toList 3 = some 11 ∧
      (splitRange "x),(a,[b,c])".toList 4 11).map (·.text) = ["a".toList, "[b,c]".toList] ∧
      ∀ s ∈ splitRange "x),(a,[b,c])".toList 4 11, Nested (· ≠ ',') s.text := by
  have hfound : findMatching "x),(a,[b,c])".toList 3 = some 11 := by decide
  obtain ⟨hwhole, hinside⟩ := splitRange_faithful "x),(a,[b,c])".toList
  exact ⟨by decide, (hwhole 0 12 (by decide) (by decide)).1, hfound, by decide, hinside 3 11 hfound⟩

end RtlAtlas.Source
