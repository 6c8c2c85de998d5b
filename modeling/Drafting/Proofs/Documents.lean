import Drafting.Archive.Constraint
import Drafting.Archive.Entity
import Drafting.Archive.Sketch
import Mathlib.Data.List.Induction
import Mathlib.Tactic.IntervalCases
/-! Data of a document and what is read from it. A reader gives back what its writer wrote as long as every
integer takes 32 bits at most; there is one lemma for each pair, from handles to groups. -/
namespace Drafting.Archive.Value
variable {α β τ σ : Type}

mutual

def Short : Value α → Prop
  | integer n => n < 0x100000000
  | list vs => AllShort vs
  | tuple _ vs => AllShort vs
  | record _ fs => FieldsShort fs
  | _ => True

def AllShort : List (Value α) → Prop
  | [] => True
  | v :: vs => v.Short ∧ AllShort vs

def FieldsShort : List (String × Value α) → Prop
  | [] => True
  | f :: fs => f.2.Short ∧ FieldsShort fs

end

mutual

def decideShort : (v : Value α) → Decidable v.Short
  | integer n => inferInstanceAs (Decidable (n < 0x100000000))
  | number _ | text _ | word _ => .isTrue trivial
  | list vs | tuple _ vs => decideAllShort vs
  | record _ fs => decideFieldsShort fs

def decideAllShort : (vs : List (Value α)) → Decidable (AllShort vs)
  | [] => .isTrue trivial
  | v :: vs => @instDecidableAnd _ _ (decideShort v) (decideAllShort vs)

def decideFieldsShort : (fs : List (String × Value α)) → Decidable (FieldsShort fs)
  | [] => .isTrue trivial
  | f :: fs => @instDecidableAnd _ _ (decideShort f.2) (decideFieldsShort fs)

end

instance (v : Value α) : Decidable v.Short := decideShort v

def ReadBack (write : τ → Value α) (read : Value α → Option τ) : Prop :=
  ∀ x, (write x).Short → read (write x) = some x

theorem bindGives {first : Option τ} {next : τ → Option σ} {x : τ} {y : σ} (found : first = some x)
    (rest : next x = some y) : (first.bind next) = some y := by
  rw [found]
  exact rest

theorem mapGives {first : Option τ} {f : τ → σ} {x : τ} (found : first = some x) : first.map f = some (f x) := by
  rw [found]
  rfl

theorem shortGives {n : Nat} (small : n < 0x100000000) : (integer n : Value α).short? = some n := by
  have kept : decide (n < 0x100000000) = true := decide_eq_true small
  rw [short?, below?, integer?, Option.filter_some, if_pos kept]

theorem flagGives (b : Bool) : (flag b : Value α).flag? = some b := by
  cases b <;> rfl

theorem optionalGives {write : τ → Value α} {read : Value α → Option τ} {x : τ}
    (given : read (write x) = some x) : optional? read (optional write (some x)) = some (some x) := mapGives given

theorem optionalReadBack {write : τ → Value α} {read : Value α → Option τ} (h : ReadBack write read) :
    ReadBack (optional write) (optional? read) := by
  intro o short
  cases o with
  | none => rfl
  | some x => exact optionalGives (h x short.1)

theorem allShort {vs : List (Value α)} : AllShort vs ↔ ∀ v ∈ vs, v.Short := by
  induction vs with
  | nil => simp [AllShort]
  | cons v vs ih => rw [AllShort, ih, List.forall_mem_cons]

theorem listGives {write : τ → Value α} {read : Value α → Option σ} {f : τ → σ} {xs : List τ}
    (each : ∀ x ∈ xs, read (write x) = some (f x)) : list? read (.list (xs.map write)) = some (xs.map f) := by
  change (xs.map write).mapM read = _
  induction xs with
  | nil => rfl
  | cons x xs ih =>
    obtain ⟨first, rest⟩ := List.forall_mem_cons.mp each
    rw [List.map_cons, List.mapM_cons]
    exact bindGives first (bindGives (ih rest) rfl)

theorem listReadBack {write : τ → Value α} {read : Value α → Option τ} (h : ReadBack write read) :
    ReadBack (fun xs => .list (xs.map write)) (list? read) := by
  intro xs short
  have items : ∀ x ∈ xs, (write x).Short := fun x member => allShort.mp short _ (List.mem_map_of_mem member)
  have read := listGives (f := id) fun x member => h x (items x member)
  rwa [List.map_id] at read

mutual

def marks (depth : Nat) : Value Float → List Char
  | integer n => (toString n).toList
  | number x => (Decimal.exact x).toList
  | text s => (quote s).toList
  | word w => w.toList
  | list [] => ['[', ']']
  | list (v :: vs) => '[' :: '\n' :: (lineMarks (depth + 1) (v :: vs) ++ (List.replicate (4 * depth) ' ' ++ [']']))
  | tuple name vs => name.toList ++ '(' :: (inlineMarks depth vs ++ [')'])
  | record name [] => name.toList ++ ['(', ')']
  | record name (f :: fs) =>
    name.toList ++ '(' :: '\n' :: (fieldMarks (depth + 1) (f :: fs) ++ (List.replicate (4 * depth) ' ' ++ [')']))

def inlineMarks (depth : Nat) : List (Value Float) → List Char
  | [] => []
  | [v] => marks depth v
  | v :: vs => marks depth v ++ ',' :: ' ' :: inlineMarks depth vs

def lineMarks (depth : Nat) : List (Value Float) → List Char
  | [] => []
  | v :: vs => List.replicate (4 * depth) ' ' ++ (marks depth v ++ ',' :: '\n' :: lineMarks depth vs)

def fieldMarks (depth : Nat) : List (String × Value Float) → List Char
  | [] => []
  | (key, v) :: fs =>
    List.replicate (4 * depth) ' ' ++
      (key.toList ++ ':' :: ' ' :: (marks depth v ++ ',' :: '\n' :: fieldMarks depth fs))

end

mutual

theorem renderMarks (depth : Nat) (v : Value Float) : (v.render Decimal.exact depth).toList = v.marks depth := by
  match v with
  | integer _ | number _ | text _ | word _ => rfl
  | list [] => simp [render, marks]
  | list (v :: vs) => simp [render, marks, renderLineMarks (depth + 1) (v :: vs), indent]
  | tuple name vs => simp [render, marks, renderInlineMarks depth vs]
  | record name [] => simp [render, marks]
  | record name (f :: fs) => simp [render, marks, renderFieldMarks (depth + 1) (f :: fs), indent]

theorem renderInlineMarks (depth : Nat) (vs : List (Value Float)) :
    (renderInline Decimal.exact depth vs).toList = inlineMarks depth vs := by
  match vs with
  | [] => rfl
  | [v] => exact renderMarks depth v
  | v :: w :: vs => simp [renderInline, inlineMarks, renderMarks depth v, renderInlineMarks depth (w :: vs)]

theorem renderLineMarks (depth : Nat) (vs : List (Value Float)) :
    (renderLines Decimal.exact depth vs).toList = lineMarks depth vs := by
  match vs with
  | [] => rfl
  | v :: vs => simp [renderLines, lineMarks, renderMarks depth v, renderLineMarks depth vs, indent]

theorem renderFieldMarks (depth : Nat) (fs : List (String × Value Float)) :
    (renderFields Decimal.exact depth fs).toList = fieldMarks depth fs := by
  match fs with
  | [] => rfl
  | (key, v) :: fs => simp [renderFields, fieldMarks, renderMarks depth v, renderFieldMarks depth fs, indent]

end

theorem printMarks (v : Value Float) : (print v).toList = v.marks 0 := renderMarks 0 v

end Drafting.Archive.Value

namespace Drafting
open Archive Value
variable {α β : Type}

theorem Archive.numberedGives {n : Nat} (short : (numberedId n : Value α).Short) :
    numberedId? (numberedId n : Value α) = some n := shortGives (α := α) short.1

theorem GroupId.readBack : ReadBack (α := α) toValue ofValue? := fun _ short => mapGives (numberedGives short)

theorem RequestId.readBack : ReadBack (α := α) toValue ofValue? := fun _ short => mapGives (numberedGives short)

theorem ConstraintId.readBack : ReadBack (α := α) toValue ofValue? := fun _ short => mapGives (numberedGives short)

theorem EntityOrigin.readBack : ReadBack (α := α) toValue ofValue? := by
  intro origin short
  cases origin with
  | request r => exact mapGives (r.readBack short.1)
  | predefined g => exact mapGives (g.readBack short.1)
  | derived g => exact mapGives (g.readBack short.1)

theorem EntityId.readBack : ReadBack (α := α) toValue ofValue? := by
  intro e short
  obtain ⟨origin, index, _⟩ := short
  exact bindGives (e.origin.readBack origin) (bindGives (shortGives index) rfl)

theorem ParamOwner.readBack : ReadBack (α := α) toValue ofValue? := by
  intro owner short
  cases owner with
  | request r => exact mapGives (r.readBack short.1)
  | group g => exact mapGives (g.readBack short.1)
  | constraint c => exact mapGives (c.readBack short.1)

theorem ParamId.readBack : ReadBack (α := α) toValue ofValue? := by
  intro p short
  obtain ⟨owner, index, _⟩ := short
  exact bindGives (p.owner.readBack owner) (bindGives (shortGives index) rfl)

section Readers
variable {write : β → Value α} {read : Value α → Option β}

theorem Vec2.readBack (h : ReadBack write read) : ReadBack (toValue write) (ofValue? read) := by
  intro v short
  obtain ⟨x, y, _⟩ := short
  exact bindGives (h v.x x) (bindGives (h v.y y) rfl)

theorem Vec3.readBack (h : ReadBack write read) : ReadBack (toValue write) (ofValue? read) := by
  intro v short
  obtain ⟨x, y, z, _⟩ := short
  exact bindGives (h v.x x) (bindGives (h v.y y) (bindGives (h v.z z) rfl))

end Readers

theorem Quat.paramsReadBack : ReadBack (α := α) paramsToValue paramsOfValue? := by
  intro q short
  obtain ⟨w, x, y, z, _⟩ := short
  exact bindGives (q.w.readBack w) (bindGives (q.x.readBack x) (bindGives (q.y.readBack y)
    (bindGives (q.z.readBack z) rfl)))

theorem Archive.paramsReadBack : ReadBack (α := α) (Vec3.toValue ParamId.toValue) (Vec3.ofValue? ParamId.ofValue?) :=
  Vec3.readBack ParamId.readBack

section Numbers
variable [Scalar α]

theorem Archive.numberReadBack : ReadBack (α := α) number number? := fun _ _ => rfl

theorem Archive.vectorReadBack : ReadBack (α := α) (Vec3.toValue number) (Vec3.ofValue? number?) :=
  Vec3.readBack numberReadBack

theorem CopyTransform.readBack : ReadBack (α := α) toValue ofValue? := by
  intro t short
  cases t with
  | identity => rfl
  | translate delta times => exact bindGives (paramsReadBack delta short.1) rfl
  | rotate center axis angle times =>
    obtain ⟨hc, ha, hg, _⟩ := short
    exact bindGives (paramsReadBack center hc) (bindGives (paramsReadBack axis ha)
      (bindGives (angle.readBack hg) rfl))
  | revolve origin axis angle =>
    obtain ⟨_, _, hg, _⟩ := short
    exact bindGives (angle.readBack hg) rfl
  | linked offset rotation =>
    obtain ⟨ho, hr, _⟩ := short
    exact bindGives (paramsReadBack offset ho) (bindGives (rotation.paramsReadBack hr) rfl)

omit [Scalar α] in
theorem FaceNormal.readBack : ReadBack (α := α) toValue ofValue? := by
  intro n short
  cases n with
  | normal id => exact mapGives (id.readBack short.1)
  | sweep source target direction =>
    obtain ⟨hs, ht, hd, _⟩ := short
    exact bindGives (source.readBack hs) (bindGives (target.readBack ht)
      (bindGives (paramsReadBack direction hd) rfl))

theorem EntityKind.readBack : ReadBack (α := α) toValue ofValue? := by
  intro kind short
  cases kind with
  | normalIn2d => rfl
  | pointIn3d p => exact bindGives (paramsReadBack p short.1) rfl
  | pointIn2d p => exact bindGives (Vec2.readBack ParamId.readBack p short.1) rfl
  | pointCopy base t => exact bindGives (t.readBack short.2.1) rfl
  | normalIn3d q => exact bindGives (q.paramsReadBack short.1) rfl
  | normalCopy base t => exact bindGives (t.readBack short.2.1) rfl
  | workplane origin normal =>
    obtain ⟨ho, hn, _⟩ := short
    exact bindGives (origin.readBack ho) (bindGives (normal.readBack hn) rfl)
  | distance p => exact bindGives (p.readBack short.1) rfl
  | distanceCopy x => rfl
  | line a b =>
    obtain ⟨⟨ha, hb, _⟩, _⟩ := short
    exact bindGives (a.readBack ha) (bindGives (b.readBack hb) rfl)
  | circle center normal radius =>
    obtain ⟨hc, hn, hr, _⟩ := short
    exact bindGives (center.readBack hc) (bindGives (normal.readBack hn) (bindGives (radius.readBack hr) rfl))
  | arc center start finish normal =>
    obtain ⟨hc, hs, hf, hn, _⟩ := short
    exact bindGives (center.readBack hc) (bindGives (start.readBack hs) (bindGives (finish.readBack hf)
      (bindGives (normal.readBack hn) rfl)))
  | cubic p q r s =>
    obtain ⟨⟨hp, hq, hr, hs, _⟩, _⟩ := short
    exact bindGives (p.readBack hp) (bindGives (q.readBack hq) (bindGives (r.readBack hr)
      (bindGives (s.readBack hs) rfl)))
  | face point normal =>
    obtain ⟨hp, hn, _⟩ := short
    exact bindGives (point.readBack hp) (bindGives (normal.readBack hn) rfl)

theorem Entity.readBack : ReadBack (α := α) toValue ofValue? := by
  intro e short
  obtain ⟨id, group, workplane, _, kind, _⟩ := short
  exact bindGives (e.id.readBack id) (bindGives (e.group.readBack group)
    (bindGives (optionalReadBack EntityId.readBack e.workplane workplane)
      (bindGives (flagGives e.construction) (bindGives (e.kind.readBack kind) rfl))))

end Numbers

theorem RequestKind.readBack (kind : RequestKind) : const? names (ofConst names kind : Value α) = some kind := by
  cases kind <;> rfl

theorem Request.readBack : ReadBack (α := α) toValue ofValue? := by
  intro r short
  obtain ⟨id, group, workplane, _⟩ := short
  exact bindGives (r.id.readBack id) (bindGives (r.group.readBack group)
    (bindGives (optionalReadBack EntityId.readBack r.workplane workplane)
      (bindGives (r.kind.readBack (α := α)) (bindGives (flagGives r.construction) rfl))))

theorem ArcEnd.readBack (tip : ArcEnd) : const? names (ofConst names tip : Value α) = some tip := by
  cases tip <;> rfl

theorem TangentEnds.readBack (ends : TangentEnds) : const? names (ofConst names ends : Value α) = some ends := by
  obtain ⟨first, second⟩ := ends
  cases first <;> cases second <;> rfl

/- A kind differs from others by its keys only, so the cases go by the number of entities and by what follows
them. -/
theorem ConstraintKind.readBack [Scalar α] : ReadBack (α := α) toValue ofValue? := by
  intro kind short
  cases kind with
  | diameter a | horizontal a | vertical a | whereDragged a => exact bindGives (a.readBack short.1) rfl
  | pointsCoincident a b | pointPointDistance a b | pointPlaneDistance a b | pointFaceDistance a b
  | pointLineDistance a b | pointInPlane a b | pointOnFace a b | pointOnLine a b | pointOnCircle a b
  | equalLengthLines a b | lengthRatio a b | lengthDifference a b | equalLineArcLength a b
  | arcArcLengthRatio a b | arcLineLengthRatio a b | arcArcDifference a b | arcLineDifference a b
  | equalRadius a b | symmetricHorizontal a b | symmetricVertical a b | atMidpoint a b | sameOrientation a b
  | parallel a b | perpendicular a b =>
    obtain ⟨ha, hb, _⟩ := short
    exact bindGives (a.readBack ha) (bindGives (b.readBack hb) rfl)
  | projectedDistance a b c | equalLengthPointLineDistance a b c | symmetric a b c | symmetricLine a b c =>
    obtain ⟨ha, hb, hc, _⟩ := short
    exact bindGives (a.readBack ha) (bindGives (b.readBack hb) (bindGives (c.readBack hc) rfl))
  | equalPointLineDistances a b c d =>
    obtain ⟨ha, hb, hc, hd, _⟩ := short
    exact bindGives (a.readBack ha) (bindGives (b.readBack hb) (bindGives (c.readBack hc)
      (bindGives (d.readBack hd) rfl)))
  | angle a b x supplementary =>
    obtain ⟨ha, hb, _⟩ := short
    exact bindGives (a.readBack ha) (bindGives (b.readBack hb) (bindGives (x := x) rfl
      (bindGives (flagGives supplementary) rfl)))
  | equalAngle a b c d supplementary =>
    obtain ⟨ha, hb, hc, hd, _⟩ := short
    exact bindGives (a.readBack ha) (bindGives (b.readBack hb) (bindGives (c.readBack hc)
      (bindGives (d.readBack hd) (bindGives (flagGives supplementary) rfl))))
  | arcLineTangent a b tip | cubicLineTangent a b tip =>
    obtain ⟨ha, hb, _⟩ := short
    exact bindGives (a.readBack ha) (bindGives (b.readBack hb) (bindGives (tip.readBack (α := α)) rfl))
  | curveCurveTangent a b ends =>
    obtain ⟨ha, hb, _⟩ := short
    exact bindGives (a.readBack ha) (bindGives (b.readBack hb) (bindGives (ends.readBack (α := α)) rfl))
  | comment => rfl

theorem Constraint.readBack [Scalar α] : ReadBack (α := α) toValue ofValue? := by
  intro c short
  obtain ⟨id, group, workplane, kind, _⟩ := short
  exact bindGives (c.id.readBack id) (bindGives (c.group.readBack group)
    (bindGives (optionalReadBack EntityId.readBack c.workplane workplane)
      (bindGives (c.kind.readBack kind) (bindGives (flagGives c.reference) rfl))))

theorem Param.readBack [Scalar α] : ReadBack (α := α) toValue ofValue? := by
  intro p short
  obtain ⟨id, group, _⟩ := short
  exact bindGives (p.id.readBack id) (bindGives (p.group.readBack group) rfl)

namespace Archive

theorem hexValueAppend (cs : List Char) (c : Char) :
    hexValue? (cs ++ [c]) = (hexValue? cs).bind fun n => (hexDigit? c).map (16 * n + ·) := by
  rw [hexValue?, List.foldlM_append]
  refine congrArg _ (funext fun n => ?_)
  rw [List.foldlM_cons]
  cases hexDigit? c <;> rfl

theorem hexDigitGives {n : Nat} (below : n < 16) : hexDigit? n.digitChar = some n := by
  interval_cases n <;> rfl

theorem hexValueDigits (n : Nat) : hexValue? (Nat.toDigits 16 n) = some n := by
  induction n using Nat.strongRecOn with
  | ind n ih =>
    by_cases below : n < 16
    · have one : hexValue? [n.digitChar] = (hexDigit? n.digitChar).map (16 * 0 + ·) := hexValueAppend [] _
      rw [Nat.toDigits_of_lt_base below, one, hexDigitGives below, Option.map_some, Nat.mul_zero, Nat.zero_add]
    · have least : 16 ≤ n := Nat.le_of_not_lt below
      rw [Nat.toDigits_of_base_le (by decide) least, hexValueAppend, ih _ (by omega),
        hexDigitGives (Nat.mod_lt n (by decide))]
      exact congrArg some (Nat.div_add_mod n 16)

theorem hexValueZeros (k : Nat) (cs : List Char) : hexValue? (List.replicate k '0' ++ cs) = hexValue? cs := by
  induction k with
  | zero => rfl
  | succ k ih => exact ih

theorem hexValueAll {cs : List Char} {n : Nat} (given : hexValue? cs = some n) : ∀ c ∈ cs, isHexDigit c := by
  induction cs using List.reverseRecOn generalizing n with
  | nil => exact fun c member => nomatch member
  | append_singleton cs last ih =>
    rw [hexValueAppend] at given
    obtain ⟨m, before, after⟩ := Option.bind_eq_some_iff.mp given
    obtain ⟨d, digit, _⟩ := Option.map_eq_some_iff.mp after
    intro c member
    rcases List.mem_append.mp member with inside | here
    · exact ih before c inside
    · rw [List.mem_singleton.mp here, isHexDigit, digit]
      rfl

end Archive

namespace ShellId

def digits (s : ShellId) : List Char :=
  List.replicate (32 - (Nat.toDigits 16 s.number).length) '0' ++ Nat.toDigits 16 s.number

def groups (s : ShellId) : List (List Char) :=
  [(0, 8), (8, 4), (12, 4), (16, 4), (20, 12)].map fun (start, count) => (s.digits.drop start).take count

theorem textGroups (s : ShellId) : s.text.toList = ['-'].intercalate s.groups := by
  simp [text, groups, digits, List.intercalate]

theorem digitsCount {s : ShellId} (fits : s.number < 2 ^ 128) : s.digits.length = 32 := by
  have few : (Nat.toDigits 16 s.number).length ≤ 32 :=
    (Nat.length_toDigits_le_iff (by decide) (by decide)).mpr (by omega)
  rw [digits, List.length_append, List.length_replicate]
  omega

theorem digitsValue (s : ShellId) : hexValue? s.digits = some s.number :=
  (hexValueZeros _ _).trans (hexValueDigits _)

theorem groupsDigits {s : ShellId} (fits : s.number < 2 ^ 128) : s.groups.flatten = s.digits := by
  have piece (start count : Nat) :
      (s.digits.drop start).take count ++ s.digits.drop (start + count) = s.digits.drop start := by
    rw [← List.drop_drop, List.take_append_drop]
  have last : (s.digits.drop 20).take 12 = s.digits.drop 20 :=
    List.take_of_length_le (by rw [List.length_drop, digitsCount fits])
  change (s.digits.drop 0).take 8 ++ ((s.digits.drop 8).take 4 ++ ((s.digits.drop 12).take 4 ++
    ((s.digits.drop 16).take 4 ++ ((s.digits.drop 20).take 12 ++ [])))) = _
  rw [List.append_nil, last, piece 16 4, piece 12 4, piece 8 4, piece 0 8, List.drop_zero]

theorem groupLengths {s : ShellId} (fits : s.number < 2 ^ 128) : s.groups.map List.length = [8, 4, 4, 4, 12] := by
  simp only [groups, List.map_cons, List.map_nil, List.length_take, List.length_drop, digitsCount fits]
  decide

theorem ofGroupsText {s : ShellId} (fits : s.number < 2 ^ 128) :
    ofGroups? [8, 4, 4, 4, 12] s.text.toList = some s := by
  have undashed : ∀ part ∈ s.groups, '-' ∉ part := by
    intro part inside dash
    have digit := hexValueAll s.digitsValue '-' (groupsDigits fits ▸ List.mem_flatten_of_mem inside dash)
    exact absurd digit (by decide)
  have parts : s.text.toList.splitOn '-' = s.groups := by
    rw [textGroups, List.splitOn_intercalate '-' undashed (List.cons_ne_nil _ _)]
  rw [ofGroups?, parts, if_pos (groupLengths fits), groupsDigits fits, digitsValue]
  rfl

theorem textStart {s : ShellId} (fits : s.number < 2 ^ 128) :
    ∃ c rest, s.text.toList = c :: rest ∧ isHexDigit c := by
  cases shape : s.digits with
  | nil => exact absurd (congrArg List.length shape) (by rw [digitsCount fits]; decide)
  | cons c ds =>
    have digit := hexValueAll s.digitsValue c (shape ▸ List.mem_cons_self)
    have start := s.textGroups
    rw [groups, shape] at start
    exact ⟨c, _, start, digit⟩

theorem textReadBack {s : ShellId} (fits : s.number < 2 ^ 128) : ofText? s.text = some s := by
  obtain ⟨c, rest, shape, digit⟩ := textStart fits
  have differs {d : Char} (other : isHexDigit d = false) : c ≠ d := by
    rintro rfl
    exact nomatch digit.symm.trans other
  have given := ofGroupsText fits
  rw [shape] at given
  unfold ofText?
  rw [shape, if_neg, if_neg]
  · exact congrArg (· <|> _) given
  · simp [differs (d := '\x7b') rfl]
  · simp [differs (d := 'u') rfl, differs (d := 'U') rfl]

end ShellId

theorem Sides.readBack (sides : Sides) : const? names (ofConst names sides : Value α) = some sides := by
  cases sides <;> rfl

theorem CombineAs.readBack (combine : CombineAs) : const? names (ofConst names combine : Value α) = some combine := by
  cases combine <;> rfl

theorem RemapRole.readBack (role : RemapRole) : const? names (ofConst names role : Value α) = some role := by
  cases role <;> rfl

def GroupKind.ShellFits : GroupKind α → Prop
  | linked _ (some shell) => shell.number < 2 ^ 128
  | _ => True

theorem GroupKind.readBack [Scalar α] {kind : GroupKind α} (short : kind.toValue.Short) (fits : kind.ShellFits) :
    ofValue? kind.toValue = some kind := by
  cases kind with
  | drawing3d | drawingWorkplane | lathe | revolve => rfl
  | extrude sides lock => exact bindGives (sides.readBack (α := α)) (bindGives (flagGives lock) rfl)
  | rotate center axis copies sides skip =>
    obtain ⟨_, _, count, _⟩ := short
    exact bindGives (shortGives count) (bindGives (sides.readBack (α := α)) (bindGives (flagGives skip) rfl))
  | translate copies sides skip =>
    exact bindGives (shortGives short.1) (bindGives (sides.readBack (α := α)) (bindGives (flagGives skip) rfl))
  | linked points shell =>
    have there := listReadBack (α := α) vectorReadBack points short.1
    have named : optional? (fun v => v.text?.bind ShellId.ofText?)
        (Value.optional (α := α) (fun s => text s.text) shell) = some shell := by
      cases shell with
      | none => rfl
      | some shell => exact optionalGives (bindGives (x := shell.text) rfl (shell.textReadBack fits))
    exact bindGives there (bindGives named rfl)

theorem RemapSource.readBack : ReadBack (α := α) toValue ofValue? := by
  intro source short
  cases source with
  | entity id => exact mapGives (id.readBack short.1)
  | imported index => exact mapGives (shortGives short.1)

theorem RemapKey.readBack : ReadBack (α := α) toValue ofValue? := by
  intro key short
  obtain ⟨source, _, copy, _⟩ := short
  exact bindGives (key.source.readBack source) (bindGives (key.role.readBack (α := α))
    (bindGives (shortGives copy) rfl))

namespace RemapTable

def reread (t : RemapTable) : RemapTable := ofList t.toList

theorem readBack {t : RemapTable} (short : (t.toValue : Value α).Short) :
    ofValue? (t.toValue : Value α) = some t.reread := by
  have entry : ReadBack (α := α) (fun e : RemapKey × Nat => tuple "" [e.1.toValue, integer e.2]) entryOfValue? := by
    intro e short
    obtain ⟨key, slot, _⟩ := short
    exact bindGives (e.1.readBack key) (bindGives (shortGives slot) rfl)
  exact mapGives (listReadBack entry t.toList short)

end RemapTable

namespace Group

def reread (g : Group α) : Group α where
  id := g.id
  name := g.name
  kind := g.kind
  source := g.source
  after := g.after
  workplane := g.workplane
  combine := g.combine
  visible := g.visible
  suppress := g.suppress
  relaxConstraints := g.relaxConstraints
  allowRedundant := g.allowRedundant
  allDimsReference := g.allDimsReference
  remap := g.remap.reread

theorem readBack [Scalar α] {g : Group α} (short : g.toValue.Short) (fits : g.kind.ShellFits) :
    ofValue? g.toValue = some g.reread := by
  obtain ⟨id, _, kind, source, after, workplane, _, _, _, _, _, _, remap, _⟩ := short
  exact bindGives (g.id.readBack id) (bindGives (x := g.name) rfl (bindGives (GroupKind.readBack kind fits)
    (bindGives (optionalReadBack GroupId.readBack g.source source)
      (bindGives (optionalReadBack GroupId.readBack g.after after)
        (bindGives (optionalReadBack EntityId.readBack g.workplane workplane)
          (bindGives (g.combine.readBack (α := α)) (bindGives (flagGives g.visible)
            (bindGives (flagGives g.suppress) (bindGives (flagGives g.relaxConstraints)
              (bindGives (flagGives g.allowRedundant) (bindGives (flagGives g.allDimsReference)
                (bindGives (RemapTable.readBack remap) rfl))))))))))))

end Group

end Drafting
