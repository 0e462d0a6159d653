import IssueBoard.Proofs.Render.Bars
import IssueBoard.Proofs.Render.Skeleton
import IssueBoard.Render.Markdown

/-! # Graphs that can be drawn

A graph is drawn in proportion to its largest number. No number from zero up to the largest one can make
this fail, as its share is at most one. What can fail is a share far below zero, a largest number so small
that nothing can be divided by it, and in a table an infinite number, which has no length.
-/

namespace IssueBoard.Render

namespace Html

/-! ## Bars in percent -/

/-- A number, or zero in place of one that is not finite. -/
def orZero (n : Number) : Number :=
  match n with
  | .real x => if x.isFinite then n else .integer 0
  | n => n

theorem isFinite_orZero (n : Number) : (orZero n).isFinite = true := by
  cases n with
  | integer n => rfl
  | real x =>
    rw [orZero]
    split
    · next finite => exact finite
    · rfl

theorem toRat_orZero (n : Number) : (orZero n).toRat = n.toRat := by
  cases n with
  | integer n => rfl
  | real x =>
    rw [orZero]
    split
    · rfl
    · next infinite =>
      rw [Number.toRat, Int.cast_zero]
      cases x with
      | nan => rfl
      | infinite => rfl
      | finite => exact absurd rfl infinite

theorem representable_orZero {n : Number} (fits : Representable n) : Representable (orZero n) := by
  cases n with
  | integer n => exact fits
  | real x =>
    rw [orZero]
    split
    · exact fits
    · exact representable_zero

/-- Whether the width of a bar is a finite number of percent. -/
def HasWidth (maximum value : Number) : Prop :=
  ∃ part, value.quotient maximum = .ok part ∧ (part * Binary64.round 100).isFinite = true

theorem ends_width (maximum value : Number) :
    Ends (width maximum value) (isPositive maximum = true → HasWidth maximum value) True := by
  rw [width]
  split
  · next positive =>
    refine Ends.map (ends_mapError (fun fault failed => ?_) ?_) _
    · rcases bind_eq_error_iff.mp failed with failed | ⟨part, -, failed⟩
      · exact isArithmetic_of_quotient failed
      · exact (ends_roundedBy Number.isSome_floor? _).1 fault failed
    · simp only [bind_eq_ok_iff, HasWidth, positive, forall_const]
      constructor
      · rintro ⟨n, part, found, floor⟩
        exact ⟨part, found, (ends_roundedBy Number.isSome_floor? _).2.mp ⟨n, floor⟩⟩
      · rintro ⟨part, found, finite⟩
        obtain ⟨n, floor⟩ := (ends_roundedBy Number.isSome_floor? (.real _)).2.mpr finite
        exact ⟨n, part, found, floor⟩
  · next empty => exact .ok (fun positive => absurd positive empty) trivial

/-- No share whose magnitude is moderate is too wide. -/
theorem hasWidth_of_le {maximum value : Number} (left : Representable value)
    (right : Representable maximum) (leftFinite : value.isFinite = true)
    (rightFinite : maximum.isFinite = true) (positive : 0 < maximum.toRat)
    (moderate : |value.toRat / maximum.toRat| ≤ Number.safeRatio) : HasWidth maximum value := by
  obtain ⟨x, left⟩ := representable_iff.mp left
  obtain ⟨y, right⟩ := representable_iff.mp right
  obtain ⟨finite, bound⟩ :=
    Number.quotient_spec left right leftFinite rightFinite positive.ne'
  obtain ⟨part, found, partFinite⟩ := finite moderate
  refine ⟨part, found, Number.isFinite_mul partFinite (by decide +kernel) ?_⟩
  have hundred : (Binary64.round 100).toRat = 100 := by decide +kernel
  rw [hundred, abs_mul]
  have small := bound part found
  norm_num
  linarith only [small, moderate, Number.safeRatio_pos]

/-! ## Graphs of a page -/

theorem exists_linkOpening {url : Link} (page : ∃ address, url = .page address) :
    ∃ text, linkOpening url = .ok text := by
  obtain ⟨address, rfl⟩ := page
  exact ⟨_, rfl⟩

theorem exists_link (content : String) {caption : Caption} (links : caption.LinksToPage) :
    ∃ text, link content caption.url = .ok text := by
  rcases present : caption.url with _ | url
  · exact ⟨content, rfl⟩
  · obtain ⟨text, opened⟩ := exists_linkOpening (links url present)
    rw [link]
    split
    · exact ⟨_, bind_eq_ok_iff.mpr ⟨text, opened, rfl⟩⟩
    · exact ⟨content, rfl⟩

theorem exists_heading (headingClass : String) {caption : Caption} (links : caption.LinksToPage) :
    ∃ lines, heading headingClass caption = .ok lines := by
  rw [heading]
  split
  · exact ⟨[], rfl⟩
  · next title present =>
    obtain ⟨text, linked⟩ := exists_link (Text.Markup.escape title) links
    exact ⟨_, bind_eq_ok_iff.mpr ⟨text, linked, rfl⟩⟩

theorem exists_labelledLines (bar : Bar) (links : bar.caption.LinksToPage) (width : Int)
    (label : String) : ∃ lines, labelledLines bar width label = .ok lines := by
  obtain ⟨title, titleDone⟩ := exists_mapM_eq_ok_iff.mpr fun title (_ : title ∈ bar.caption.title.toList) =>
    exists_link ("<span class=\"title\">" ++ Text.Markup.escape title ++ "</span>") links
  obtain ⟨drawn, drawnDone⟩ := exists_link ("<span class=\"" ++ (if 0 < width then "value"
    else "value empty_value") ++ "\" style=\"width: " ++ Int.repr width ++ "%;\">" ++ label ++
      "</span>") links
  exact ⟨_, bind_eq_ok_iff.mpr ⟨title, titleDone, bind_eq_ok_iff.mpr ⟨drawn, drawnDone, rfl⟩⟩⟩

theorem ends_figure (n : Number) : Ends (figure (.number n)) n.IsPrintable True :=
  (ends_figureText n).map _

theorem ends_barLines {mark : Mark} (links : mark.caption.LinksToPage)
    (fits : Representable mark.number) (maximum value : Number) :
    Ends (barLines maximum mark.bar value) (isPositive maximum = true → HasWidth maximum value) True := by
  rw [barLines_eq]
  refine (ends_width maximum value).followed fun width => ?_
  have label : ∃ text, barLabel mark.bar width = .ok text := by
    rw [barLabel]
    split
    · exact (ends_figure mark.number).exists_iff.mpr ⟨isPrintable_of_representable fits, trivial⟩
    · exact ⟨"", rfl⟩
  obtain ⟨text, shown⟩ := label
  rw [shown]
  exact exists_labelledLines mark.bar links width text

theorem ends_measuredBar (mark : Mark) :
    Ends (measuredBar mark.widget) (Representable mark.number) True :=
  .after (barOf_widget mark) ((ends_measured mark).map _)

theorem measuredBar_eq {mark : Mark} {drawn : Bar × Number} (done : measuredBar mark.widget = .ok drawn) :
    drawn = (mark.bar, orZero mark.number) := by
  obtain ⟨bar, found, rest⟩ := bind_eq_ok_iff.mp done
  cases found
  obtain ⟨_, found, same⟩ := bind_eq_ok_iff.mp rest
  rw [measured_eq found] at same
  exact (pure_eq_ok_iff.mp same).symm

/-- The number that has the full width. -/
def maximumOf (numbers : List Number) : Number := greatest (numbers.map orZero)

section Maximum

variable {numbers : List Number}

theorem isFinite_of_mem_map_orZero : ∀ n ∈ numbers.map orZero, n.isFinite = true := by
  intro n member
  obtain ⟨given, -, rfl⟩ := List.mem_map.mp member
  exact isFinite_orZero given

theorem isFinite_maximumOf (numbers : List Number) : (maximumOf numbers).isFinite = true :=
  isFinite_greatest isFinite_of_mem_map_orZero

theorem le_maximumOf {n : Number} (member : n ∈ numbers) : n.toRat ≤ (maximumOf numbers).toRat := by
  have most := (le_greatest isFinite_of_mem_map_orZero).1 (orZero n) (List.mem_map_of_mem member)
  rwa [toRat_orZero] at most

theorem representable_maximumOf (all : ∀ n ∈ numbers, Representable n) :
    Representable (maximumOf numbers) := by
  refine representable_greatest ?_
  rw [List.forall_mem_map]
  exact fun n member => representable_orZero (all n member)

end Maximum

/-- Whether numbers can be drawn as bars of some width in percent of the largest of them: all are within
the range of floating-point numbers, and none is too far below zero. -/
def Spans (numbers : List Number) : Prop :=
  (∀ n ∈ numbers, Representable n) ∧
    (0 < (maximumOf numbers).toRat → ∀ n ∈ numbers, n.toRat < 0 → HasWidth (maximumOf numbers) (orZero n))

/-- Only a number below zero can be too wide. -/
theorem spans_iff (numbers : List Number) :
    ((∀ n ∈ numbers, Representable n) ∧ ∀ n ∈ numbers,
        isPositive (maximumOf numbers) = true → HasWidth (maximumOf numbers) (orZero n)) ↔
      Spans numbers := by
  refine and_congr_right fun representable => ?_
  rw [isPositive_iff (isFinite_maximumOf numbers)]
  refine ⟨fun wide positive n member _ => wide n member positive, fun wide n member positive => ?_⟩
  rcases lt_or_ge n.toRat 0 with below | above
  · exact wide positive n member below
  · -- a share of at most one is far from overflowing
    have share : n.toRat / (maximumOf numbers).toRat ≤ 1 :=
      (div_le_one positive).mpr (le_maximumOf member)
    refine hasWidth_of_le (representable_orZero (representable n member))
      (representable_maximumOf representable) (isFinite_orZero n) (isFinite_maximumOf numbers) positive ?_
    rw [toRat_orZero, abs_of_nonneg (div_nonneg above positive.le)]
    exact share.trans (one_le_zpow₀ one_le_two (by decide))

theorem ends_graph {caption : Caption} {marks : List Mark} (links : caption.LinksToPage)
    (each : ∀ mark ∈ marks, mark.caption.LinksToPage) :
    Ends (graph caption (marks.map Mark.widget)) (Spans (marks.map Mark.number)) True := by
  have bars := Ends.mapM_numbers fun mark (_ : mark ∈ marks) => ends_measuredBar mark
  rw [← spans_iff, List.forall_mem_map, List.forall_mem_map, graph, List.mapM_map]
  refine bars.bind_numbers fun drawn done => ?_
  have representable := (bars.exists_iff.mp ⟨_, done⟩).1
  obtain rfl := eq_map_of_mapM (fun _ _ => measuredBar_eq) done
  have maximum : (largest ((marks.map fun mark => (mark.bar, orZero mark.number)).map
      fun drawn => (Figure.number drawn.2, drawn.2))).2 = maximumOf (marks.map Mark.number) := by
    rw [maximumOf, greatest, List.map_map, List.map_map, List.map_map]
    rfl
  simp only [maximum, List.mapM_map]
  have lines := Ends.mapM_numbers fun mark (member : mark ∈ marks) =>
    ends_barLines (each mark member) (representable mark member)
      (maximumOf (marks.map Mark.number)) (orZero mark.number)
  exact lines.followed fun _ => exists_bind_pure_iff.mpr (exists_heading "graph_title" links)

end Html

namespace Markdown

/-! ## Texts with a glyph and a link -/

theorem ends_decorate (text : String) (color : Option String) {caption : Caption}
    (links : caption.LinksToPage) : Ends (decorate text color caption.url) True (Known color) := by
  rw [decorate]
  refine (ends_withGlyph text color).followed fun shown => ?_
  rcases present : caption.url with _ | url
  · exact ⟨shown, rfl⟩
  · obtain ⟨address, rfl⟩ := links url present
    exact ⟨_, rfl⟩

theorem ends_figure {caption : Caption} (links : caption.LinksToPage) (n : Number)
    (color : Option String) : Ends (figure caption (.number n) color) n.IsPrintable (Known color) :=
  ((ends_figureText n).bind_numbers fun text _ => ends_decorate text color links).congr
    (and_iff_left trivial) Iff.rfl

/-! ## Bars of pieces -/

/-- Whether a number has a finite number of pieces, or none because it is no number. -/
def HasLength (scale n : Number) : Prop :=
  n.isNaN = true ∨ ∃ length, n.multiply scale = .ok length ∧ length.isFinite = true

theorem ends_pieces (scale n : Number) : Ends (pieces scale n) (HasLength scale n) True := by
  rw [pieces]
  split
  · next nan => exact .ok (.inl nan) trivial
  · next number =>
    refine Ends.map (ends_mapError (fun fault failed => ?_) ?_) _
    · rcases bind_eq_error_iff.mp failed with failed | ⟨length, -, failed⟩
      · exact isArithmetic_of_multiply failed
      · exact (ends_roundedBy Number.isSome_truncate? length).1 fault failed
    · simp only [bind_eq_ok_iff, HasLength, number, Bool.false_eq_true, false_or]
      constructor
      · rintro ⟨k, length, found, truncated⟩
        exact ⟨length, found, (ends_roundedBy Number.isSome_truncate? length).2.mp ⟨k, truncated⟩⟩
      · rintro ⟨length, found, finite⟩
        obtain ⟨k, truncated⟩ := (ends_roundedBy Number.isSome_truncate? length).2.mpr finite
        exact ⟨k, length, found, truncated⟩

theorem ends_scale (maximum : Number) :
    Ends (scale maximum)
      (isPositive maximum = true → ∃ factor, (Number.integer barLength).quotient maximum = .ok factor)
      True := by
  rw [scale]
  split
  · next positive =>
    refine ends_mapError (fun fault failed => ?_) ?_
    · cases found : (Number.integer barLength).quotient maximum with
      | ok factor =>
        rw [found] at failed
        cases failed
      | error reason =>
        rw [found] at failed
        cases failed
        exact isArithmetic_of_quotient found
    · simp only [positive, forall_const]
      cases (Number.integer barLength).quotient maximum with
      | ok factor => exact iff_of_true ⟨_, rfl⟩ ⟨_, rfl⟩
      | error reason => exact iff_of_false not_exists_error not_exists_error
  · next empty => exact .ok (fun positive => absurd positive empty) trivial

theorem ends_barRow {mark : Mark} (links : mark.caption.LinksToPage) (fits : Representable mark.number)
    (scale : Number) :
    Ends (barRow scale mark.bar mark.number) (HasLength scale mark.number) (Known mark.color) :=
  ((ends_pieces scale mark.number).bind_numbers fun _ _ =>
    (ends_figure links mark.number mark.color).map _).congr
      (and_iff_left (isPrintable_of_representable fits)) Iff.rfl

/-- Only a finite number has a length, unless it is no number at all. -/
theorem isFinite_of_hasLength {scale n : Number} (length : HasLength scale n) :
    n.isNaN = true ∨ n.isFinite = true := by
  refine length.imp_right fun ⟨product, found, finite⟩ => ?_
  cases n with
  | integer n => rfl
  | real x =>
    rw [Number.multiply] at found
    · obtain ⟨_, same, found⟩ := bind_eq_ok_iff.mp found
      cases same
      obtain ⟨y, -, found⟩ := bind_eq_ok_iff.mp found
      cases found
      exact (Binary64.isFinite_of_mul finite).1
    · exact nofun

theorem multiply_real (n : Number) (factor : Binary64) :
    n.multiply (.real factor) = (n.toReal >>= fun x => pure (.real (x * factor))) := by
  cases n with
  | integer n => rfl
  | real x => rfl

theorem hasLength_zero {n : Number} (finite : n.isFinite = true) : HasLength (.integer 0) n := by
  refine .inr ?_
  cases n with
  | integer n => exact ⟨_, rfl, rfl⟩
  | real x =>
    have zero : (Number.integer 0).toReal = .ok (.zero false) := by decide +kernel
    refine ⟨.real (x * .zero false), ?_, Number.isFinite_mul finite rfl ?_⟩
    · rw [Number.multiply, zero]
      · rfl
      · exact nofun
    · rw [show (Binary64.zero false).toRat = 0 by decide +kernel, mul_zero, abs_zero]
      linarith only [Number.safeRatio_pos]

theorem abs_mul_le_of_share {value factor maximum bound : ℚ} (positive : 0 < maximum)
    (less : |value| ≤ 2 * (bound * maximum)) (small : |factor| ≤ 8 * (35 / maximum)) :
    |value * factor| ≤ 560 * bound := by
  rw [abs_mul]
  calc |value| * |factor| ≤ 2 * (bound * maximum) * (8 * (35 / maximum)) :=
        mul_le_mul less small (abs_nonneg factor) ((abs_nonneg value).trans less)
    _ = 560 * bound := by
      field_simp
      ring

theorem toReal_barLength : (Number.integer barLength).toReal = .ok (Binary64.round barLength) := by
  decide +kernel

/-- What is at most some multiple of the largest number has a length if the factor is finite. -/
theorem hasLength_of_le {maximum n : Number} {factor : Binary64} {bound : ℚ}
    (left : Representable n) (right : Representable maximum) (leftFinite : n.isFinite = true)
    (rightFinite : maximum.isFinite = true) (positive : 0 < maximum.toRat)
    (found : (Number.integer barLength).quotient maximum = .ok factor) (finite : factor.isFinite = true)
    (less : |n.toRat| ≤ bound * maximum.toRat) (moderate : bound ≤ Number.safeRatio) :
    HasLength (.real factor) n := by
  obtain ⟨x, left⟩ := representable_iff.mp left
  obtain ⟨y, right⟩ := representable_iff.mp right
  obtain ⟨xFinite, xLess, -⟩ := Number.toReal_spec left leftFinite
  have small := (Number.quotient_spec toReal_barLength right rfl rightFinite positive.ne').2 factor found
  have share : |Number.toRat (.integer barLength) / maximum.toRat| = 35 / maximum.toRat := by
    rw [abs_div, abs_of_pos positive, Number.toRat, barLength]
    norm_num
  rw [share] at small
  refine .inr ⟨.real (x * factor), ?_, Number.isFinite_mul xFinite finite ?_⟩
  · rw [multiply_real, left]
    rfl
  · have near : |x.toRat| ≤ 2 * (bound * maximum.toRat) := by linarith only [xLess, less]
    have product := abs_mul_le_of_share positive near small
    linarith only [product, moderate, Number.safeRatio_pos]

/-- The number that has the full length. -/
def maximumOf (numbers : List Number) : Number := greatest (numbers.filter fun n => !n.isNaN)

theorem not_isNaN_of_toRat_ne {n : Number} (nonzero : n.toRat ≠ 0) : n.isNaN = false := by
  rcases n with n | _ | _ | _
  · rfl
  · exact absurd rfl nonzero
  · rfl
  · rfl

section Maximum

variable {numbers : List Number}

theorem isFinite_of_mem_filter (finite : ∀ n ∈ numbers, n.isNaN = true ∨ n.isFinite = true) :
    ∀ n ∈ numbers.filter fun n => !n.isNaN, n.isFinite = true := by
  intro n member
  obtain ⟨member, number⟩ := List.mem_filter.mp member
  rw [Bool.not_eq_true'] at number
  exact (finite n member).resolve_left (by rw [number]; exact Bool.false_ne_true)

theorem isFinite_maximumOf (finite : ∀ n ∈ numbers, n.isNaN = true ∨ n.isFinite = true) :
    (maximumOf numbers).isFinite = true :=
  isFinite_greatest (isFinite_of_mem_filter finite)

theorem le_maximumOf (finite : ∀ n ∈ numbers, n.isNaN = true ∨ n.isFinite = true) {n : Number}
    (member : n ∈ numbers) (number : n.isNaN = false) : n.toRat ≤ (maximumOf numbers).toRat := by
  refine (le_greatest (isFinite_of_mem_filter finite)).1 n (List.mem_filter.mpr ⟨member, ?_⟩)
  rw [number]
  rfl

theorem representable_maximumOf (all : ∀ n ∈ numbers, Representable n) :
    Representable (maximumOf numbers) :=
  representable_greatest fun n member => all n (List.mem_of_mem_filter member)

theorem maximumOf_mem (positive : 0 < (maximumOf numbers).toRat) : maximumOf numbers ∈ numbers := by
  rcases greatest_mem (numbers.filter fun n => !n.isNaN) with member | zero
  · exact List.mem_of_mem_filter member
  · rw [maximumOf, zero, Number.toRat, Int.cast_zero] at positive
    exact absurd positive (lt_irrefl 0)

end Maximum

section Scale

variable {maximum : Number} {factor : Binary64}

theorem scale_of_pos (finite : maximum.isFinite = true) (positive : 0 < maximum.toRat)
    (found : (Number.integer barLength).quotient maximum = .ok factor) :
    scale maximum = .ok (.real factor) := by
  rw [scale, if_pos ((isPositive_iff finite).mpr positive), found]
  rfl

theorem scale_of_not_pos (finite : maximum.isFinite = true) (empty : ¬0 < maximum.toRat) :
    scale maximum = .ok (.integer 0) := by
  rw [scale, if_neg (mt (isPositive_iff finite).mp empty)]

/-- A number has a length only at a finite scale, unless it is no number at all. -/
theorem isFinite_of_hasLength_real {n : Number} (number : n.isNaN = false)
    (length : HasLength (.real factor) n) : factor.isFinite = true := by
  rcases length with nan | ⟨_, multiplied, fits⟩
  · rw [number] at nan
    cases nan
  · rw [multiply_real] at multiplied
    obtain ⟨x, -, same⟩ := bind_eq_ok_iff.mp multiplied
    cases same
    exact (Binary64.isFinite_of_mul fits).2

end Scale

/-- Whether a number has a length at the scale of a largest number. -/
def IsDrawn (maximum n : Number) : Prop := ∃ factor, scale maximum = .ok factor ∧ HasLength factor n

/-- Whether numbers can be drawn as rows of pieces, in proportion to the largest of them: all are within
the range of floating-point numbers, none is infinite, the largest is not so small that the factor becomes
infinite, and no number is too far below zero. -/
def Scales (numbers : List Number) : Prop :=
  (∀ n ∈ numbers, Representable n ∧ (n.isNaN = true ∨ n.isFinite = true)) ∧
    (0 < (maximumOf numbers).toRat →
      ∃ factor, (Number.integer barLength).quotient (maximumOf numbers) = .ok factor ∧
        factor.isFinite = true ∧ ∀ n ∈ numbers, n.toRat < 0 → HasLength (.real factor) n)

section Scales

variable {numbers : List Number}

theorem scales_of_isDrawn (representable : ∀ n ∈ numbers, Representable n)
    (divides : isPositive (maximumOf numbers) = true →
      ∃ factor, (Number.integer barLength).quotient (maximumOf numbers) = .ok factor)
    (drawn : ∀ n ∈ numbers, IsDrawn (maximumOf numbers) n) : Scales numbers := by
  have finite : ∀ n ∈ numbers, n.isNaN = true ∨ n.isFinite = true := by
    intro n member
    obtain ⟨factor, -, length⟩ := drawn n member
    exact isFinite_of_hasLength length
  have most := isFinite_maximumOf finite
  refine ⟨fun n member => ⟨representable n member, finite n member⟩, fun positive => ?_⟩
  obtain ⟨factor, found⟩ := divides ((isPositive_iff most).mpr positive)
  have lengths : ∀ n ∈ numbers, HasLength (.real factor) n := by
    intro n member
    obtain ⟨_, scaled, length⟩ := drawn n member
    rw [scale_of_pos most positive found] at scaled
    cases scaled
    exact length
  -- the largest number is drawn itself, which only a finite factor allows
  have full := lengths _ (maximumOf_mem positive)
  exact ⟨factor, found, isFinite_of_hasLength_real (not_isNaN_of_toRat_ne positive.ne') full,
    fun n member _ => lengths n member⟩

theorem isDrawn_of_scales (scales : Scales numbers) {n : Number} (member : n ∈ numbers) :
    IsDrawn (maximumOf numbers) n := by
  obtain ⟨each, scaled⟩ := scales
  have most := isFinite_maximumOf fun n member => (each n member).2
  -- without a positive number the scale is zero, and so is every length
  by_cases positive : 0 < (maximumOf numbers).toRat
  · obtain ⟨factor, found, finite, below⟩ := scaled positive
    refine ⟨_, scale_of_pos most positive found, ?_⟩
    rcases Bool.eq_false_or_eq_true n.isNaN with nan | number
    · exact .inl nan
    rcases lt_or_ge n.toRat 0 with less | more
    · exact below n member less
    · have nFinite := (each n member).2.resolve_left (by rw [number]; exact Bool.false_ne_true)
      have one : (1 : ℚ) ≤ Number.safeRatio := one_le_zpow₀ one_le_two (by decide)
      refine hasLength_of_le (each n member).1 (representable_maximumOf fun n member => (each n member).1)
        nFinite most positive found finite ?_ one
      rw [abs_of_nonneg more, one_mul]
      exact le_maximumOf (fun n member => (each n member).2) member number
  · refine ⟨_, scale_of_not_pos most positive, ?_⟩
    rcases (each n member).2 with nan | finite
    · exact .inl nan
    · exact hasLength_zero finite

end Scales

/-- What the rows of a graph ask for is that its numbers scale. -/
theorem scales_iff (numbers : List Number) :
    ((∀ n ∈ numbers, Representable n) ∧
        (isPositive (maximumOf numbers) = true →
          ∃ factor, (Number.integer barLength).quotient (maximumOf numbers) = .ok factor) ∧
          ∀ n ∈ numbers, IsDrawn (maximumOf numbers) n) ↔ Scales numbers := by
  constructor
  · rintro ⟨representable, divides, drawn⟩
    exact scales_of_isDrawn representable divides drawn
  · intro scales
    refine ⟨fun n member => (scales.1 n member).1, fun positive => ?_, fun n => isDrawn_of_scales scales⟩
    have most := isFinite_maximumOf fun n member => (scales.1 n member).2
    obtain ⟨factor, found, -⟩ := scales.2 ((isPositive_iff most).mp positive)
    exact ⟨factor, found⟩

theorem ends_graph {caption : Caption} {marks : List Mark}
    (each : ∀ mark ∈ marks, mark.caption.LinksToPage) :
    Ends (graph caption (marks.map Mark.widget)) (Scales (marks.map Mark.number))
      (∀ mark ∈ marks, Known mark.color) := by
  have bars : (marks.map Mark.widget).mapM barOf = .ok (marks.map Mark.bar) := by
    rw [List.mapM_map]
    exact mapM_eq_ok_map fun mark _ => barOf_widget mark
  have numbers := Ends.mapM_numbers fun mark (_ : mark ∈ marks) => ends_measured mark
  rw [← scales_iff, List.forall_mem_map, List.forall_mem_map, graph]
  refine Ends.after bars ?_
  rw [List.mapM_map]
  refine numbers.bind_numbers fun drawn done => ?_
  have representable := (numbers.exists_iff.mp ⟨_, done⟩).1
  obtain rfl := eq_map_of_mapM (fun _ _ => measured_eq) done
  have maximum : largest (((marks.map fun mark => (mark.bar, mark.number)).filter
      fun drawn => !drawn.2.isNaN).map fun drawn => (drawn.1.value, drawn.2)) =
        (.number (maximumOf (marks.map Mark.number)), maximumOf (marks.map Mark.number)) := by
    rw [maximumOf, ← largest_figures, List.filter_map, List.filter_map, List.map_map, List.map_map]
    rfl
  simp only [maximum, List.mapM_map]
  have inRange : Representable (maximumOf (marks.map Mark.number)) := by
    refine representable_maximumOf ?_
    rw [List.forall_mem_map]
    exact representable
  refine (ends_scale _).bind_numbers fun factor scaled => ?_
  obtain ⟨text, shown⟩ :=
    (ends_figureText _).exists_iff.mpr ⟨isPrintable_of_representable inRange, trivial⟩
  have rows := Ends.mapM fun mark (member : mark ∈ marks) =>
    ends_barRow (each mark member) (representable mark member) factor
  refine .after shown ((rows.map _).congr (forall₂_congr fun mark _ => ?_) Iff.rfl)
  refine ⟨fun length => ⟨factor, scaled, length⟩, fun ⟨_, same, length⟩ => ?_⟩
  rw [scaled] at same
  cases same
  exact length

end Markdown

/-! ## Numbers of moderate size -/

/-- A bound on sizes up to which the shares of numbers are far from overflowing. -/
def moderateBound : ℚ := 2 ^ (400 : Int)

/-- Whether a number is zero, of moderate size, or no number. -/
def IsModerate (n : Number) : Prop :=
  n.isNaN = true ∨
    n.isFinite = true ∧ |n.toRat| ≤ moderateBound ∧ (n.toRat = 0 ∨ 1 ≤ moderateBound * |n.toRat|)

theorem moderateBound_pos : 0 < moderateBound := by
  rw [moderateBound]
  positivity

theorem one_le_moderateBound : 1 ≤ moderateBound := one_le_zpow₀ one_le_two (by decide)

theorem moderateBound_mul_le : moderateBound * moderateBound ≤ Number.safeRatio := by
  rw [moderateBound, Number.safeRatio, ← zpow_add₀ two_ne_zero]
  exact zpow_le_zpow_right₀ one_le_two (by decide)

theorem representable_of_le {n : Int} (less : |(n : ℚ)| < 2 ^ (1023 : Int)) :
    Representable (.integer n) := by
  have finite := Binary64.isFinite_round less
  obtain ⟨negative, mantissa, exponent, canonical, same⟩ := Binary64.exists_of_isFinite finite
  refine ⟨.finite negative mantissa exponent canonical, ?_⟩
  rw [Number.toBinary64?, Binary64.ofInt?, same]

namespace IsModerate

variable {n : Number} {numbers : List Number}

theorem abs_le (moderate : IsModerate n) : |n.toRat| ≤ moderateBound := by
  rcases moderate with nan | ⟨-, less, -⟩
  · by_contra more
    have nonzero : n.toRat ≠ 0 := by
      intro zero
      rw [zero, abs_zero] at more
      exact more moderateBound_pos.le
    rw [Markdown.not_isNaN_of_toRat_ne nonzero] at nan
    cases nan
  · exact less

theorem least (moderate : IsModerate n) (nonzero : n.toRat ≠ 0) : 1 ≤ moderateBound * |n.toRat| := by
  rcases moderate with nan | ⟨-, -, zero | more⟩
  · rw [Markdown.not_isNaN_of_toRat_ne nonzero] at nan
    cases nan
  · exact absurd zero nonzero
  · exact more

theorem representable (moderate : IsModerate n) : Representable n := by
  cases n with
  | real x => exact ⟨x, rfl⟩
  | integer n =>
    refine representable_of_le (moderate.abs_le.trans_lt ?_)
    exact zpow_lt_zpow_right₀ one_lt_two (by decide)

/-- Any number is some moderate multiple of another one. -/
theorem abs_le_mul {maximum : Number} (moderate : IsModerate n) (most : IsModerate maximum)
    (positive : 0 < maximum.toRat) :
    |n.toRat| ≤ moderateBound * moderateBound * maximum.toRat := by
  have low := most.least positive.ne'
  rw [abs_of_pos positive] at low
  calc |n.toRat| ≤ moderateBound * 1 := by rw [mul_one]; exact moderate.abs_le
    _ ≤ moderateBound * (moderateBound * maximum.toRat) :=
      mul_le_mul_of_nonneg_left low moderateBound_pos.le
    _ = moderateBound * moderateBound * maximum.toRat := by ring

/-- Integers that floating-point numbers hold exactly are of moderate size. -/
theorem integer {n : Int} (small : n.natAbs ≤ 2 ^ 53) : IsModerate (.integer n) := by
  have cast : |(n : ℚ)| ≤ 2 ^ (53 : Int) := by
    rw [← Int.cast_abs, Int.abs_eq_natAbs]
    exact_mod_cast small
  refine .inr ⟨rfl, ?_, ?_⟩
  · exact cast.trans (zpow_le_zpow_right₀ one_le_two (by decide))
  · rw [Number.toRat, Int.cast_eq_zero]
    refine (eq_or_ne n 0).imp_right fun nonzero => ?_
    exact one_le_mul_of_one_le_of_one_le one_le_moderateBound (by exact_mod_cast Int.one_le_abs nonzero)

theorem greatest (all : ∀ n ∈ numbers, IsModerate n) : IsModerate (greatest numbers) := by
  rcases greatest_mem numbers with member | zero
  · exact all _ member
  · rw [zero]
    refine .inr ⟨rfl, ?_, .inl Int.cast_zero⟩
    rw [Number.toRat, Int.cast_zero, abs_zero]
    exact moderateBound_pos.le

theorem orZero (moderate : IsModerate n) : IsModerate (Html.orZero n) := by
  refine .inr ⟨Html.isFinite_orZero n, ?_⟩
  rw [Html.toRat_orZero]
  refine ⟨moderate.abs_le, ?_⟩
  rcases eq_or_ne n.toRat 0 with zero | nonzero
  · exact .inl zero
  · exact .inr (moderate.least nonzero)

/-- Numbers of moderate size can be drawn in either way. -/
theorem spans (all : ∀ n ∈ numbers, IsModerate n) : Html.Spans numbers := by
  refine ⟨fun n member => (all n member).representable, fun positive n member _ => ?_⟩
  have most : IsModerate (Html.maximumOf numbers) := by
    refine IsModerate.greatest ?_
    rw [List.forall_mem_map]
    exact fun n member => (all n member).orZero
  refine Html.hasWidth_of_le (all n member).orZero.representable most.representable
    (Html.isFinite_orZero n) (Html.isFinite_maximumOf numbers) positive ?_
  rw [abs_div, abs_of_pos positive, div_le_iff₀ positive]
  exact ((all n member).orZero.abs_le_mul most positive).trans
    (mul_le_mul_of_nonneg_right moderateBound_mul_le positive.le)

theorem scales (all : ∀ n ∈ numbers, IsModerate n) : Markdown.Scales numbers := by
  have finite : ∀ n ∈ numbers, n.isNaN = true ∨ n.isFinite = true :=
    fun n member => (all n member).imp_right fun found => found.1
  refine ⟨fun n member => ⟨(all n member).representable, finite n member⟩, fun positive => ?_⟩
  have most : IsModerate (Markdown.maximumOf numbers) :=
    IsModerate.greatest fun n member => all n (List.mem_of_mem_filter member)
  have mostFinite := Markdown.isFinite_maximumOf finite
  obtain ⟨y, right⟩ := representable_iff.mp most.representable
  have share : |Number.toRat (.integer Markdown.barLength) / (Markdown.maximumOf numbers).toRat| ≤
      Number.safeRatio := by
    rw [abs_div, abs_of_pos positive, div_le_iff₀ positive]
    exact ((IsModerate.integer (by decide)).abs_le_mul most positive).trans
      (mul_le_mul_of_nonneg_right moderateBound_mul_le positive.le)
  obtain ⟨factor, found, factorFinite⟩ :=
    (Number.quotient_spec Markdown.toReal_barLength right rfl mostFinite positive.ne').1 share
  refine ⟨factor, found, factorFinite, fun n member below => ?_⟩
  have number := Markdown.not_isNaN_of_toRat_ne below.ne
  have nFinite := (finite n member).resolve_left (by rw [number]; exact Bool.false_ne_true)
  exact Markdown.hasLength_of_le (all n member).representable most.representable nFinite mostFinite
    positive found factorFinite ((all n member).abs_le_mul most positive) moderateBound_mul_le

end IsModerate

end IssueBoard.Render
