import ReefCards.Proofs.Markup.Row
import ReefCards.Proofs.Text.Occurrence

/-!
# Stray text

The fragments of a text put together are the text, and those without a shape hold no character that
could be read as one. Conversely such a text is scanned as stray wherever no icon can reach out of
it. Main statements: `Fragment.flatMap_source_scan`, `Fragment.isStray_of_mem_scan` and
`Fragment.scan_stray_append`.
-/

namespace ReefCards

variable {rows : Bool} {c : Char} {rest source text : Text}

/-- A text is stray as a whole: none of its characters is plain, and no icon stands in it. -/
def IsStray (text : Text) : Prop :=
  (∀ c ∈ text, Shape.isPlainChar c = false) ∧
    ∀ name, Shape.IsName name → ¬ bracketed name <:+: text

/-- The empty text is stray. -/
theorem isStray_nil : IsStray [] := by
  refine ⟨by simp, fun name _ hicon => ?_⟩
  rw [List.infix_nil] at hicon
  simp [bracketed] at hicon

/-- A part of a stray text is stray. -/
theorem IsStray.part {part : Text} (h : IsStray text) (hpart : part <:+: text) : IsStray part :=
  ⟨fun c hc => h.1 c (hpart.subset hc), fun name hname hicon => h.2 name hname (hicon.trans hpart)⟩

/-- A character that begins no shape is stray together with the stray text after it. -/
theorem IsStray.cons (h : IsStray source) (hsource : source <+: rest)
    (hread : Shape.read? rows (c :: rest) = none) : IsStray (c :: source) := by
  obtain ⟨hplain, hicon⟩ := Shape.read?_cons_eq_none_iff.1 hread
  refine ⟨List.forall_mem_cons.2 ⟨hplain, h.1⟩, fun name hname hinfix => ?_⟩
  rcases List.infix_cons_iff.1 hinfix with hprefix | hinfix
  · obtain ⟨tail, htail⟩ := hprefix.trans ((List.prefix_cons_inj c).2 hsource)
    rw [← htail, Shape.icon?_bracketed_append hname] at hicon
    exact absurd hicon (by simp)
  · exact h.2 name hname hinfix

/-- No space stands in a bracketed name. -/
theorem Shape.space_not_mem_bracketed {name : Text} (hname : IsName name) :
    ' ' ∉ bracketed name := by
  have hspace : ' ' ∉ name := fun hmem => absurd (hname.2 ' ' hmem) (by decide)
  simpa [bracketed] using hspace

namespace Fragment

/-- The characters of fragments with a stray character put before them. -/
theorem flatMap_source_pushStray (c : Char) (fragments : List Fragment) :
    (pushStray c fragments).flatMap Fragment.source = c :: fragments.flatMap Fragment.source := by
  rcases fragments with _ | ⟨⟨_ | shape, source⟩, rest⟩ <;> rfl

/-- The fragments of a text hold all its characters in their order. -/
theorem flatMap_source_scan (rows : Bool) (text : Text) :
    (scan rows text).flatMap Fragment.source = text := by
  induction text using scan_induction rows with
  | nil => simp
  | shape shape source rest hread hspells ih => rw [scan_append hread, List.flatMap_cons, ih]
  | stray c rest hread ih => rw [scan_cons hread, flatMap_source_pushStray, ih]

/-- Every fragment of a text that has no shape is stray as a whole. -/
theorem isStray_of_mem_scan {fragment : Fragment} (hmem : fragment ∈ scan rows text)
    (hshape : fragment.shape = none) : IsStray fragment.source := by
  induction text using scan_induction rows generalizing fragment with
  | nil => exact absurd hmem (by simp)
  | shape shape source rest hread hspells ih =>
    rw [scan_append hread] at hmem
    rcases List.mem_cons.1 hmem with rfl | hmem
    · exact absurd hshape (by simp)
    · exact ih hmem hshape
  | stray c rest hread ih =>
    -- The character joins the first fragment after it if that is stray too, and then stands right
    -- before it in the text.
    have hwhole := flatMap_source_scan rows rest
    rw [scan_cons hread] at hmem
    generalize scan rows rest = fragments at hmem hwhole ih
    rcases fragments with _ | ⟨⟨_ | shape, source⟩, others⟩
    · obtain rfl := List.mem_singleton.1 hmem
      exact isStray_nil.cons List.nil_prefix hread
    · rcases List.mem_cons.1 hmem with rfl | hmem
      · have hsource : source <+: rest := ⟨_, hwhole⟩
        exact (ih List.mem_cons_self rfl).cons hsource hread
      · exact ih (List.mem_cons_of_mem _ hmem) hshape
    · rcases List.mem_cons.1 hmem with rfl | hmem
      · exact isStray_nil.cons List.nil_prefix hread
      · exact ih hmem hshape

/-- Stray text at the end or before a space is scanned as stray characters: no icon reaches across
the space. -/
theorem scan_stray_append (h : IsStray source) (hrest : rest = [] ∨ ∃ tail, rest = ' ' :: tail) :
    scan rows (source ++ rest) = source.foldr pushStray (scan rows rest) := by
  induction source with
  | nil => rfl
  | cons c others ih =>
    have hothers : IsStray others := h.part (List.suffix_cons c others).isInfix
    have hicon : Shape.icon? (c :: (others ++ rest)) = none := by
      rw [Option.eq_none_iff_forall_ne_some]
      rintro ⟨name, after⟩ hsome
      obtain ⟨hname, heq⟩ := Shape.icon?_eq_some_iff.1 hsome
      have hreach : bracketed name <+: (c :: others) ++ rest := ⟨after, heq.symm⟩
      have hwithin : bracketed name <+: c :: others := by
        rcases hrest with rfl | ⟨tail, rfl⟩
        · simpa using hreach
        · have hspace := Shape.space_not_mem_bracketed hname
          exact (Text.prefix_append_cons_iff hspace _ _).1 hreach
      exact h.2 name hname hwithin.isInfix
    have hread : Shape.read? rows (c :: (others ++ rest)) = none :=
      Shape.read?_cons_eq_none_iff.2 ⟨h.1 c List.mem_cons_self, hicon⟩
    rw [List.cons_append, scan_cons hread, ih hothers, List.foldr_cons]

end Fragment
end ReefCards
