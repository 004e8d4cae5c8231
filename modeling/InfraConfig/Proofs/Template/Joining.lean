import InfraConfig.Proofs.Template.Reading

/-! Interpolations written behind a text. A text leaves what is behind it alone if it is read to its
end and does not end in a dollar sign, which would make an escape of an interpolation (`clears_iff`);
the two are then read one behind the other (`Clears.pieces_append`). What stands before an
interpolation of a text leaves it alone (`clears_of_pieces`). So what is written as an interpolation is
read as the first span exactly if the text in front of it holds no span and leaves it alone
(`spansFrom_interpolation_iff`). -/
namespace InfraConfig.Template

open InfraConfig.Text (allBlank cut?_append placedFrom_append placedFrom_eq_nil_iff utf8Length
  utf8Length_append)

variable {s t rest : List Char} {ps qs : List Piece}

/-- An interpolation directly behind the text is read as one. -/
def Clears (s : List Char) : Prop :=
  pieces (s ++ (Piece.interpolation []).chars) = pieces s ++ [.interpolation []]

instance : DecidablePred Clears := fun _ => inferInstanceAs (Decidable (_ = _))

theorem spansFrom_eq_nil_iff {offset : Nat} :
    spansFrom offset ps = [] ↔ ∀ p ∈ ps, p.live? = none := by
  rw [spansFrom_eq, List.map_eq_nil_iff, placedFrom_eq_nil_iff]

/-! ### Texts behind each other -/

/-- Dollar signs and a brace stand at the front of two texts only if they stand at the front of the
first one, unless the first one ends in a dollar sign. -/
theorem not_prefix_append (dollars : List Char) (hdollars : ∀ c ∈ dollars, c = '$') (hne : s ≠ [])
    (hlast : s.getLast? ≠ some '$') (h : ¬ dollars ++ ['{'] <+: s) (t : List Char) :
    ¬ dollars ++ ['{'] <+: s ++ t := by
  intro hprefix
  rcases List.prefix_or_prefix_of_prefix hprefix (List.prefix_append s t) with hshort | hlong
  · exact h hshort
  · rcases List.prefix_concat_iff.1 hlong with rfl | hinside
    · exact h (List.prefix_refl _)
    · apply hlast
      rw [List.getLast?_eq_some_getLast hne, hdollars _ (hinside.subset (List.getLast_mem hne))]

theorem getLast?_of_append (front : List Char) (h : (front ++ s).getLast? ≠ some '$') :
    s.getLast? ≠ some '$' := by
  intro hs
  rw [List.getLast?_append, hs] at h
  exact h rfl

namespace Reading

/-- A text is read behind one that has been read to its end, unless that ends in a dollar sign. -/
theorem append (h : Reading s ps []) (hlast : s.getLast? ≠ some '$') (more : Reading t qs rest) :
    Reading (s ++ t) (ps ++ qs) rest := by
  generalize hstop : ([] : List Char) = stop at h
  induction h with
  | done => exact more
  | unclosed => cases hstop
  | @escape s _ _ _ ih =>
    exact .escape (ih (getLast?_of_append ['$', '$', '{'] hlast) hstop)
  | @interpolation inner s _ _ noClose _ ih =>
    have hinner : ('$' :: '{' :: (inner ++ '}' :: s)) = ('$' :: '{' :: inner ++ ['}']) ++ s := by simp
    rw [hinner] at hlast
    simpa using Reading.interpolation noClose (ih (getLast?_of_append _ hlast) hstop)
  | @char c s _ _ unopened unescaped _ ih =>
    refine .char ?_ ?_ (ih (getLast?_of_append [c] hlast) hstop)
    · exact not_prefix_append ['$'] (by simp) (List.cons_ne_nil c s) hlast unopened t
    · exact not_prefix_append ['$', '$'] (by simp) (List.cons_ne_nil c s) hlast unescaped t

/-- A text in which no interpolation is opened is read as its characters. -/
theorem of_unopened (h : ¬ ['$', '{'] <:+: s) : Reading s (s.map .char) [] := by
  induction s with
  | nil => exact .done
  | cons c s ih =>
    refine .char (fun hopen => h hopen.isInfix) (fun hescape => ?_) (ih fun hs => ?_)
    · obtain ⟨t, ht⟩ := hescape
      exact h ⟨['$'], t, ht⟩
    · exact h (hs.trans (List.suffix_cons c s).isInfix)

/-- The text of the first pieces is read as these pieces when nothing is behind it. -/
theorem front {back : List Piece} (h : Reading s (ps ++ back) rest) :
    Reading (ps.flatMap Piece.chars) ps [] := by
  generalize hread : ps ++ back = read at h
  induction h generalizing ps with
  | done =>
    obtain ⟨rfl, -⟩ := List.append_eq_nil_iff.1 hread
    exact .done
  | unclosed =>
    obtain ⟨rfl, -⟩ := List.append_eq_nil_iff.1 hread
    exact .done
  | escape _ ih =>
    cases ps with
    | nil => exact .done
    | cons p ps =>
      obtain ⟨rfl, hmore⟩ := List.cons.inj hread
      exact .escape (ih hmore)
  | interpolation noClose _ ih =>
    cases ps with
    | nil => exact .done
    | cons p ps =>
      obtain ⟨rfl, hmore⟩ := List.cons.inj hread
      exact interpolation_append noClose (ih hmore)
  | @char c s _ _ unopened unescaped more ih =>
    cases ps with
    | nil => exact .done
    | cons p ps =>
      obtain ⟨rfl, hmore⟩ := List.cons.inj hread
      change ps ++ back = _ at hmore
      have hfront : c :: ps.flatMap Piece.chars <+: c :: s := by
        rw [more.chars_eq, ← hmore, List.flatMap_append, List.append_assoc]
        exact List.prefix_append (c :: ps.flatMap Piece.chars) _
      exact .char (fun h => unopened (h.trans hfront)) (fun h => unescaped (h.trans hfront)) (ih hmore)

end Reading

/-! ### Texts that leave interpolations alone -/

/-- What stands before an interpolation of a text is read without it as it is read with it, and it
does not end in a dollar sign. -/
theorem reading_of_pieces {raw : List Char} {front back : List Piece}
    (h : pieces s = front ++ .interpolation raw :: back) :
    Reading (front.flatMap Piece.chars) front [] ∧
      (front.flatMap Piece.chars).getLast? ≠ some '$' := by
  obtain ⟨ps, rest, hreading⟩ := exists_reading s
  rw [hreading.pieces_eq] at h
  -- the interpolation is no character of the rest
  obtain ⟨more, hps⟩ : ∃ more, ps = front ++ .interpolation raw :: more := by
    rcases List.append_eq_append_iff.1 h with ⟨extra, -, hrest⟩ | ⟨extra, hps, hextra⟩
    · have hmem : .interpolation raw ∈ rest.map Piece.char := by
        rw [hrest]
        simp
      simp at hmem
    · cases extra with
      | nil =>
        have hmem : .interpolation raw ∈ rest.map Piece.char := by
          rw [List.nil_append] at hextra
          rw [← hextra]
          simp
        simp at hmem
      | cons p extra =>
        obtain ⟨rfl, -⟩ := List.cons.inj hextra
        exact ⟨extra, hps⟩
  rw [hps] at hreading
  exact ⟨hreading.front, hreading.unescaped⟩

theorem clears_iff : Clears s ↔ Reading s (pieces s) [] ∧ s.getLast? ≠ some '$' := by
  constructor
  · intro h
    have hfront := reading_of_pieces h
    rwa [chars_pieces] at hfront
  · intro h
    obtain ⟨hreading, hlast⟩ := h
    have hbehind : Reading ((Piece.interpolation []).chars ++ []) [.interpolation []] [] :=
      .interpolation_append (by simp) .done
    exact pieces_of_reading_nil (hreading.append hlast hbehind)

theorem clears_of_pieces {raw : List Char} {front back : List Piece}
    (h : pieces s = front ++ .interpolation raw :: back) :
    Clears (front.flatMap Piece.chars) ∧ pieces (front.flatMap Piece.chars) = front := by
  obtain ⟨hreading, hlast⟩ := reading_of_pieces h
  have hpieces := pieces_of_reading_nil hreading
  exact ⟨clears_iff.2 ⟨hpieces.symm ▸ hreading, hlast⟩, hpieces⟩

/-- A text in which no interpolation is opened leaves what is behind it alone, unless it ends in a
dollar sign. -/
theorem clears_of_unopened (h : ¬ ['$', '{'] <:+: s) (hlast : s.getLast? ≠ some '$') : Clears s := by
  have hreading := Reading.of_unopened h
  exact clears_iff.2 ⟨by rwa [pieces_of_reading_nil hreading], hlast⟩

theorem spans_of_unopened (h : ¬ ['$', '{'] <:+: s) : spans s = [] := by
  rw [(Reading.of_unopened h).spans_eq, spansFrom_eq_nil_iff]
  intro p hp
  obtain ⟨c, -, rfl⟩ := List.mem_map.1 hp
  rfl

theorem Clears.pieces_append (h : Clears s) (t : List Char) :
    pieces (s ++ t) = pieces s ++ pieces t := by
  obtain ⟨hreading, hlast⟩ := clears_iff.1 h
  obtain ⟨qs, rest, hmore⟩ := exists_reading t
  rw [(hreading.append hlast hmore).pieces_eq, hmore.pieces_eq, List.append_assoc]

/-! ### Spans of texts behind each other -/

theorem spansFrom_append (offset : Nat) (ps qs : List Piece) :
    spansFrom offset (ps ++ qs) =
      spansFrom offset ps ++ spansFrom (offset + utf8Length (ps.flatMap Piece.chars)) qs := by
  simp only [spansFrom_eq, placedFrom_append, List.map_append]

/-- A span that starts where a text ends leaves the text as it is. -/
theorem clears_of_mem_spansFrom {offset : Nat} {span : Span}
    (h : span ∈ spansFrom offset (pieces (s ++ t)))
    (hstart : span.start = offset + utf8Length s) : Clears s := by
  obtain ⟨front, back, hpieces, -, hfront, -⟩ := mem_spansFrom.1 h
  have hs : front.flatMap Piece.chars = s := by
    have htext := chars_pieces (s ++ t)
    rw [hpieces, List.flatMap_append] at htext
    have hcut := cut?_append (front.flatMap Piece.chars)
      ((.interpolation span.raw :: back : List Piece).flatMap Piece.chars)
    have hlength : utf8Length (front.flatMap Piece.chars) = utf8Length s := by omega
    rw [htext, hlength, cut?_append] at hcut
    cases hcut
    rfl
  exact hs ▸ (clears_of_pieces hpieces).1

/-- Pieces have no spans if their spans do not start before their end. -/
theorem spansFrom_eq_nil {offset : Nat}
    (h : ∀ span ∈ spansFrom offset ps, offset + utf8Length (ps.flatMap Piece.chars) ≤ span.start) :
    spansFrom offset ps = [] := by
  rw [List.eq_nil_iff_forall_not_mem]
  intro span hspan
  have hend := h span hspan
  obtain ⟨front, back, rfl, -, hstart, -⟩ := mem_spansFrom.1 hspan
  have hlength : 0 < utf8Length (Piece.interpolation span.raw).chars :=
    Text.utf8Length_cons_pos _ _
  rw [List.flatMap_append, List.flatMap_cons, utf8Length_append, utf8Length_append] at hend
  omega

/-- What is written as an interpolation is read as the first span exactly if the text in front of it
holds no span and leaves it alone. -/
theorem spansFrom_interpolation_iff {offset start stop : Nat} {raw : List Char} {more : List Span}
    (hblank : allBlank raw = false) (hbrace : '}' ∉ raw) (hstart : start = offset + utf8Length s)
    (hstop : stop = start + (Piece.interpolation raw).byteLength)
    (hmore : ∀ span ∈ more, start ≤ span.start) :
    spansFrom offset (pieces (s ++ ((Piece.interpolation raw).chars ++ t))) =
        ⟨start, stop, raw⟩ :: more ↔
      (spans s = [] ∧ Clears s) ∧ spansFrom stop (pieces t) = more := by
  have hpieces : pieces ((Piece.interpolation raw).chars ++ t) = .interpolation raw :: pieces t := by
    simpa [Piece.chars] using pieces_interpolation hbrace t
  have hread : Clears s → spansFrom offset (pieces (s ++ ((Piece.interpolation raw).chars ++ t))) =
      spansFrom offset (pieces s) ++ ⟨start, stop, raw⟩ :: spansFrom stop (pieces t) := by
    intro hclears
    rw [hclears.pieces_append, hpieces, spansFrom_append, chars_pieces, ← hstart, hstop]
    simp [spansFrom, hblank]
  have hempty : spans s = [] ↔ spansFrom offset (pieces s) = [] := by
    rw [spans, spansFrom_eq_nil_iff, spansFrom_eq_nil_iff]
  rw [hempty]
  constructor
  · intro heq
    have hclears : Clears s := by
      have hmem : ⟨start, stop, raw⟩ ∈
          spansFrom offset (pieces (s ++ ((Piece.interpolation raw).chars ++ t))) := by
        rw [heq]
        exact List.mem_cons_self
      exact clears_of_mem_spansFrom hmem hstart
    have hbefore : spansFrom offset (pieces s) = [] := by
      refine spansFrom_eq_nil fun span hspan => ?_
      have hspan := List.mem_append_left (⟨start, stop, raw⟩ :: spansFrom stop (pieces t)) hspan
      rw [← hread hclears, heq] at hspan
      rw [chars_pieces, ← hstart]
      rcases List.mem_cons.1 hspan with rfl | hspan
      · exact Nat.le_refl _
      · exact hmore span hspan
    rw [hread hclears, hbefore] at heq
    exact ⟨⟨hbefore, hclears⟩, (List.cons.inj heq).2⟩
  · intro h
    obtain ⟨⟨hbefore, hclears⟩, rfl⟩ := h
    rw [hread hclears, hbefore, List.nil_append]

end InfraConfig.Template
