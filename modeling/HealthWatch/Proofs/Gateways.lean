import HealthWatch.Proofs.Encodings
import HealthWatch.Pushgateway
/-!
# Where metrics are pushed

The segments that name a job and an instance are added to the path of the endpoint. An encoded segment
stands for its text and no other, so it is never taken for a dot segment. `targetUrl_eq` says what the whole
path is, and `make_keeps_names` that names are told apart by their URLs.
-/

namespace HealthWatch

open Text

namespace Url

/-! ## Dot segments -/

theorem toLower_cases (c : Char) :
    c.toLower = c ∨ 65 ≤ c.toNat ∧ c.toNat ≤ 90 ∧ c.toLower.toNat = c.toNat + 32 := by
  unfold Char.toLower
  split
  · next h =>
    have hlow : 65 ≤ c.toNat := UInt32.le_iff_toNat_le.1 h.1
    have hhigh : c.toNat ≤ 90 := UInt32.le_iff_toNat_le.1 h.2
    refine .inr ⟨hlow, hhigh, ?_⟩
    show (c.val + 32).toNat = c.toNat + 32
    rw [UInt32.toNat_add]
    exact Nat.mod_eq_of_lt (Nat.lt_of_le_of_lt (Nat.add_le_add_right hhigh _) (by decide))
  · exact .inl rfl

theorem eq_of_toLower {c d : Char} (h : c.toLower = d) (hd : d.toNat < 97) : c = d := by
  obtain hsame | ⟨hlow, -, hnat⟩ := toLower_cases c
  · exact hsame.symm.trans h
  · rw [h] at hnat
    omega

theorem eq_e_of_toLower {c : Char} (h : c.toLower = 'e') : c = 'e' ∨ c = 'E' := by
  obtain hsame | ⟨-, -, hnat⟩ := toLower_cases c
  · exact .inl (hsame.symm.trans h)
  · rw [h] at hnat
    exact .inr (Char.toNat_inj.1 (Nat.add_right_cancel hnat.symm))

/-- What a dot may be written as. -/
inductive Dot : List Char → Prop
  | plain : Dot ['.']
  | small : Dot ['%', '2', 'e']
  | capital : Dot ['%', '2', 'E']

theorem dot_of_plain {cs : List Char} (h : cs.map Char.toLower = ['.']) : Dot cs := by
  obtain ⟨c, rest, rfl, hc, hrest⟩ := List.map_eq_cons_iff.1 h
  obtain rfl := List.map_eq_nil_iff.1 hrest
  rw [eq_of_toLower hc (by decide)]
  exact .plain

theorem dot_of_encoded {cs : List Char} (h : cs.map Char.toLower = ['%', '2', 'e']) : Dot cs := by
  obtain ⟨a, rest, rfl, ha, hrest⟩ := List.map_eq_cons_iff.1 h
  obtain ⟨b, rest, rfl, hb, hrest⟩ := List.map_eq_cons_iff.1 hrest
  obtain ⟨c, rest, rfl, hc, hrest⟩ := List.map_eq_cons_iff.1 hrest
  obtain rfl := List.map_eq_nil_iff.1 hrest
  rw [eq_of_toLower ha (by decide), eq_of_toLower hb (by decide)]
  obtain rfl | rfl := eq_e_of_toLower hc
  · exact .small
  · exact .capital

theorem Dot.decode {cs : List Char} (h : Dot cs) (rest : List UInt8) :
    percentDecode (encodeUtf8 cs ++ rest) = 0x2E :: percentDecode rest := by
  have htwo : hexByte? 0x32 = some 2 := by decide
  cases h with
  | plain => exact percentDecode_cons (by decide) rest
  | small => exact percentDecode_triple htwo (show hexByte? 0x65 = some 14 by decide) rest
  | capital => exact percentDecode_triple htwo (show hexByte? 0x45 = some 14 by decide) rest

theorem spells_of_isSingleDot {seg : List Char} (h : isSingleDot seg = true) : Spells seg ['.'] := by
  have hdot : Dot seg := by
    simp only [isSingleDot, decide_eq_true_eq, List.mem_cons, List.not_mem_nil, or_false] at h
    obtain h | h := h
    · exact dot_of_plain h
    · exact dot_of_encoded h
  have hdecode := hdot.decode []
  rw [List.append_nil] at hdecode
  rw [Spells, hdecode]
  decide

theorem dots_of_append {seg first second : List Char} (h : seg.map Char.toLower = first ++ second)
    (hfirst : ∀ cs : List Char, cs.map Char.toLower = first → Dot cs)
    (hsecond : ∀ cs : List Char, cs.map Char.toLower = second → Dot cs) :
    Spells seg ['.', '.'] := by
  obtain ⟨a, b, rfl, ha, hb⟩ := List.map_eq_append_iff.1 h
  have hdecode := (hsecond b hb).decode []
  rw [List.append_nil] at hdecode
  rw [Spells, encodeUtf8_append, (hfirst a ha).decode, hdecode]
  decide

theorem spells_of_isDoubleDot {seg : List Char} (h : isDoubleDot seg = true) :
    Spells seg ['.', '.'] := by
  simp only [isDoubleDot, decide_eq_true_eq, List.mem_cons, List.not_mem_nil, or_false] at h
  have hplain : ∀ cs : List Char, cs.map Char.toLower = ['.'] → Dot cs := fun _ => dot_of_plain
  have hencoded : ∀ cs : List Char, cs.map Char.toLower = ['%', '2', 'e'] → Dot cs :=
    fun _ => dot_of_encoded
  obtain h | h | h | h := h
  · exact dots_of_append h hplain hplain
  · exact dots_of_append h hencoded hencoded
  · exact dots_of_append h hencoded hplain
  · exact dots_of_append h hplain hencoded

/-! ## Segments that are added -/

/-- A text that comes through as a segment: it is not one of dots, and nothing in it is passed over. -/
structure Lasting (cs : List Char) : Prop where
  notDot : cs ≠ ['.']
  notDots : cs ≠ ['.', '.']
  kept : ∀ c ∈ cs, c ≠ '\t' ∧ c ≠ '\n' ∧ c ≠ '\r'

variable {u : Url} {path : List (List Char)} {raw : List Char}

theorem lasting_of_all (hdot : raw ≠ ['.']) (hdots : raw ≠ ['.', '.'])
    (h : (raw.all fun c => !isIgnored c) = true) : Lasting raw := by
  refine ⟨hdot, hdots, fun c hc => ?_⟩
  have hkept := List.all_eq_true.1 h c hc
  simpa [isIgnored, and_assoc] using hkept

theorem filter_of_lasting (h : Lasting raw) : (raw.filter fun c => !isIgnored c) = raw := by
  refine List.filter_eq_self.2 fun c hc => ?_
  obtain ⟨htab, hline, hreturn⟩ := h.kept c hc
  simp only [isIgnored, htab, hline, hreturn, decide_false, Bool.or_self, Bool.not_false]

theorem spells_inSegment (raw : List Char) : Spells (percentEncode inSegment raw) raw :=
  spells_percentEncode (by decide) raw

theorem addSegment_eq (h : Lasting raw) : addSegment path raw =
    (if path = [[]] then [] else path) ++ [percentEncode inSegment raw] := by
  have hspells := spells_inSegment raw
  -- A segment of dots stands for dots, and the encoded one stands for the text.
  have hdots : isDoubleDot (percentEncode inSegment raw) = false :=
    Bool.eq_false_iff.2 fun hdots => h.notDots (hspells.unique (spells_of_isDoubleDot hdots))
  have hdot : isSingleDot (percentEncode inSegment raw) = false :=
    Bool.eq_false_iff.2 fun hdot => h.notDot (hspells.unique (spells_of_isSingleDot hdot))
  unfold addSegment
  rw [if_neg (not_or.2 ⟨h.notDot, h.notDots⟩), filter_of_lasting h]
  dsimp only
  rw [hdots, hdot, if_neg Bool.false_ne_true, if_neg Bool.false_ne_true]

/-- Once a path has a segment that is not empty, segments are only put at its end. -/
theorem foldl_addSegment {raws : List (List Char)} (hpath : path ≠ [[]] ∧ path ≠ [])
    (h : ∀ raw ∈ raws, Lasting raw) :
    raws.foldl addSegment path = path ++ raws.map (percentEncode inSegment) := by
  induction raws generalizing path with
  | nil => exact (List.append_nil _).symm
  | cons raw raws ih =>
    rw [List.forall_mem_cons] at h
    have hnext : path ++ [percentEncode inSegment raw] ≠ [[]] := by
      intro heq
      obtain ⟨hnil, -⟩ | ⟨-, hnil⟩ := List.append_eq_singleton_iff.1 heq
      · exact hpath.2 hnil
      · cases hnil
    rw [List.foldl_cons, addSegment_eq h.1, if_neg hpath.1,
      ih ⟨hnext, List.append_ne_nil_of_right_ne_nil _ (List.cons_ne_nil _ _)⟩ h.2,
      List.append_assoc, List.map_cons, List.singleton_append]

/-- The path without an empty segment at its end. -/
def base (u : Url) : List (List Char) :=
  if u.path.getLast? = some [] then u.path.dropLast else u.path

/-- Segments are added to the base of a path that has empty segments nowhere else. -/
theorem path_popIfEmpty (hempty : ∀ seg ∈ u.path.dropLast, seg ≠ []) :
    (if u.popIfEmpty.path = [[]] then [] else u.popIfEmpty.path) = u.base := by
  by_cases hlast : u.path.getLast? = some []
  · have hbase : u.base = u.path.dropLast := if_pos hlast
    rw [hbase]
    by_cases hlong : u.path.length > 1
    · have hpop : u.popIfEmpty.path = u.path.dropLast := congrArg path (if_pos ⟨hlong, hlast⟩)
      rw [hpop]
      refine if_neg fun hfront => ?_
      rw [hfront] at hempty
      exact hempty [] (List.mem_singleton_self _) rfl
    · have hpop : u.popIfEmpty.path = u.path := congrArg path (if_neg fun h => hlong h.1)
      obtain ⟨front, hpath⟩ := List.getLast?_eq_some_iff.1 hlast
      have hfront : front = [] := by
        rw [hpath, List.length_append, List.length_singleton] at hlong
        exact List.eq_nil_of_length_eq_zero (by omega)
      rw [hpop, hpath, hfront]
      rfl
  · have hpop : u.popIfEmpty.path = u.path := congrArg path (if_neg fun h => hlast h.2)
    have hbase : u.base = u.path := if_neg hlast
    rw [hpop, hbase]
    refine if_neg fun hpath => hlast ?_
    rw [hpath]
    rfl

/-- The URL with segments put at the end of its path, and with everything else as it is. -/
def below (u : Url) (segs : List (List Char)) : Url := { u with path := u.base ++ segs }

theorem extend_popIfEmpty {raws : List (List Char)} (hempty : ∀ seg ∈ u.path.dropLast, seg ≠ [])
    (hne : raw ≠ []) (h : ∀ r ∈ raw :: raws, Lasting r) : u.popIfEmpty.extend (raw :: raws) =
      u.below ((raw :: raws).map (percentEncode inSegment)) := by
  rw [List.forall_mem_cons] at h
  have hnil : percentEncode inSegment raw ≠ [] := by
    intro hnil
    have hspells := spells_inSegment raw
    rw [hnil] at hspells
    exact hne (hspells.unique rfl)
  have hnext : u.base ++ [percentEncode inSegment raw] ≠ [[]] := by
    intro heq
    obtain ⟨-, hseg⟩ | ⟨-, hseg⟩ := List.append_eq_singleton_iff.1 heq
    · exact hnil (List.cons.inj hseg).1
    · cases hseg
  have hpath : (raw :: raws).foldl addSegment u.popIfEmpty.path =
      u.base ++ (raw :: raws).map (percentEncode inSegment) := by
    rw [List.foldl_cons, addSegment_eq h.1, path_popIfEmpty hempty,
      foldl_addSegment ⟨hnext, List.append_ne_nil_of_right_ne_nil _ (List.cons_ne_nil _ _)⟩ h.2,
      List.append_assoc, List.map_cons, List.singleton_append]
  have helse : u.popIfEmpty.extend (raw :: raws) =
      { u with path := (raw :: raws).foldl addSegment u.popIfEmpty.path } := by
    unfold popIfEmpty
    split <;> rfl
  rw [helse, hpath, below]

theorem extend_extend (u : Url) (first second : List (List Char)) :
    (u.extend first).extend second = u.extend (first ++ second) := by
  rw [extend, extend, extend, List.foldl_append]

/-! ## Texts of paths -/

/-- Segments hold no slashes, so that their path is cut where they end. -/
def SlashFree (path : List (List Char)) : Prop := ∀ seg ∈ path, '/' ∉ seg

theorem SlashFree.append {path path' : List (List Char)} (h : SlashFree path)
    (h' : SlashFree path') : SlashFree (path ++ path') :=
  List.forall_mem_append.2 ⟨h, h'⟩

theorem slashFree_singleton {seg : List Char} (h : '/' ∉ seg) : SlashFree [seg] :=
  List.forall_mem_singleton.2 h

theorem SlashFree.above (h : SlashFree path) : SlashFree (above path) := by
  unfold Url.above
  split
  · exact h
  · exact fun seg hseg => h seg (List.dropLast_subset path hseg)

theorem SlashFree.base (h : SlashFree u.path) : SlashFree u.base := by
  unfold Url.base
  split
  · exact fun seg hseg => h seg (List.dropLast_subset _ hseg)
  · exact h

theorem slash_notMem_percentEncode {encodes : Char → Bool} {cs : List Char}
    (h : '/' ∈ cs → encodes '/' = true) : '/' ∉ percentEncode encodes cs := by
  intro hmem
  obtain hpercent | ⟨n, hn, hhex⟩ | ⟨hcs, hnot⟩ := mem_percentEncode hmem
  · exact absurd hpercent (by decide)
  · have hall : ∀ m < 16, '/' ≠ capitalHex m := by decide
    exact hall n hn hhex
  · rw [h hcs] at hnot
    cases hnot

theorem slashFree_resolve {done raws : List (List Char)} (hdone : SlashFree done)
    (hraws : SlashFree raws) : SlashFree (resolve done raws) := by
  have hencoded : ∀ {raw : List Char}, '/' ∉ raw → SlashFree [percentEncode inPath raw] :=
    fun h => slashFree_singleton (slash_notMem_percentEncode fun hraw => absurd hraw h)
  have hnil : SlashFree [[]] := slashFree_singleton List.not_mem_nil
  fun_induction resolve done raws with
  | case1 done => exact hdone
  | case2 done raw _ hdots => exact hdone.above.append hnil
  | case3 done raw _ hdots hdot => exact hdone.append hnil
  | case4 done raw _ hdots hdot => exact hdone.append (hencoded (hraws raw List.mem_cons_self))
  | case5 done raw more hmore _ hdots ih => exact ih hdone.above (List.forall_mem_cons.1 hraws).2
  | case6 done raw more hmore _ hdots hdot ih => exact ih hdone (List.forall_mem_cons.1 hraws).2
  | case7 done raw more hmore _ hdots hdot ih =>
    obtain ⟨hraw, hrest⟩ := List.forall_mem_cons.1 hraws
    exact ih (hdone.append (hencoded hraw)) hrest

/-- What is read has a scheme of web services, and its path is cut at slashes. -/
theorem read?_eq_some {cs : List Char} (h : read? cs = some u) :
    (∃ rest, cutScheme (clean cs) = some (u.scheme, rest)) ∧ ∃ raw, u.path = readPath raw := by
  unfold read? at h
  obtain ⟨⟨scheme, rest⟩, hscheme, h⟩ := Option.bind_eq_some_iff.1 h
  dsimp only at h
  split at h
  · cases h
  · obtain ⟨host, -, h⟩ := Option.bind_eq_some_iff.1 h
    obtain ⟨⟨port, rest'⟩, -, h⟩ := Option.bind_eq_some_iff.1 h
    cases h
    exact ⟨⟨rest, hscheme⟩, _, rfl⟩

theorem slashFree_of_read? {cs : List Char} (h : read? cs = some u) : SlashFree u.path := by
  obtain ⟨-, raw, hpath⟩ := read?_eq_some h
  rw [hpath, readPath]
  exact slashFree_resolve (List.forall_mem_nil _) fun _ => notMem_of_mem_fields

theorem fields_append_flatMap {seg : List Char} (hseg : '/' ∉ seg) (h : SlashFree path) :
    fields '/' (seg ++ path.flatMap ('/' :: ·)) = seg :: path := by
  induction path generalizing seg with
  | nil => rw [List.flatMap_nil, List.append_nil, fields_of_notMem hseg]
  | cons next path ih =>
    obtain ⟨hnext, hrest⟩ := List.forall_mem_cons.1 h
    rw [List.flatMap_cons, List.cons_append, fields_append_cons hseg, ih hnext hrest]

/-- The segments of a path are what stands between the slashes of its text. -/
theorem fields_pathText (h : SlashFree u.path) : fields '/' u.pathText = [] :: u.path :=
  fields_append_flatMap List.not_mem_nil h

/-- A text begins with the name of a scheme, whose letters may be large or small, and a colon. -/
def HasScheme (cs name : List Char) : Prop :=
  ∃ written rest, clean cs = written ++ ':' :: rest ∧ ':' ∉ written ∧
    written.map Char.toLower = name

theorem hasScheme_of_read? {cs : List Char} (h : read? cs = some u) : HasScheme cs u.scheme.text := by
  obtain ⟨⟨rest, hscheme⟩, -⟩ := read?_eq_some h
  unfold cutScheme at hscheme
  dsimp only at hscheme
  split at hscheme
  · next mark rest' hdrop =>
    have hmark : mark = ':' := by
      have hfirst := List.head?_dropWhile_not (fun c => decide (c ≠ ':')) (clean cs)
      rw [hdrop] at hfirst
      exact Decidable.not_not.1 (of_decide_eq_false hfirst)
    obtain rfl := hmark
    refine ⟨_, rest', (hdrop ▸ List.takeWhile_append_dropWhile).symm, ?_, ?_⟩
    · intro hmem
      have hne := List.all_eq_true.1 List.all_takeWhile ':' hmem
      exact of_decide_eq_true hne rfl
    · split at hscheme
      · next hname =>
        obtain ⟨hhttp, -⟩ := Prod.mk.inj (Option.some.inj hscheme)
        rw [hname, ← hhttp]
        rfl
      · split at hscheme
        · next hname =>
          obtain ⟨hhttps, -⟩ := Prod.mk.inj (Option.some.inj hscheme)
          rw [hname, ← hhttps]
          rfl
        · cases hscheme
  · cases hscheme

/-- Paths are told apart by the texts of the URLs. -/
theorem path_inj_of_text {path' : List (List Char)} (hpath : SlashFree path)
    (hpath' : SlashFree path')
    (h : ({ u with path := path } : Url).text = ({ u with path := path' } : Url).text) :
    path = path' := by
  unfold text at h
  have htext := List.append_cancel_left (List.append_cancel_right (List.append_cancel_right h))
  have hfields := congrArg (fields '/') htext
  rw [fields_pathText hpath, fields_pathText hpath'] at hfields
  exact (List.cons.inj hfields).2

end Url

/-! ## The names of jobs and instances -/

namespace Pushgateway

/-- Segments name a job and an instance, which is left out if its name is empty. -/
inductive Naming (job : List Char) : List Char → List (List Char) → Prop
  | job {seg : List Char} (hjob : Spells seg job) :
    Naming job [] ["metrics".toList, "job".toList, seg]
  | both {inst seg seg' : List Char} (hne : inst ≠ []) (hjob : Spells seg job)
      (hinst : Spells seg' inst) :
    Naming job inst ["metrics".toList, "job".toList, seg, "instance".toList, seg']

theorem Naming.unique {job job' inst inst' : List Char} {segs : List (List Char)}
    (h : Naming job inst segs) (h' : Naming job' inst' segs) : job = job' ∧ inst = inst' := by
  cases h with
  | job hjob =>
    cases h' with
    | job hjob' => exact ⟨hjob.unique hjob', rfl⟩
  | both _ hjob hinst =>
    cases h' with
    | both _ hjob' hinst' => exact ⟨hjob.unique hjob', hinst.unique hinst'⟩

variable {u : Url}

theorem naming_job (job : List Char) :
    Naming job [] (["metrics".toList, "job".toList, job].map (percentEncode Url.inSegment)) :=
  .job (Url.spells_inSegment job)

theorem naming_both {job inst : List Char} (hne : inst ≠ []) :
    Naming job inst (["metrics".toList, "job".toList, job, "instance".toList, inst].map
      (percentEncode Url.inSegment)) :=
  .both hne (Url.spells_inSegment job) (Url.spells_inSegment inst)

/-- The URL below an endpoint names the job and the instance, and is like the endpoint otherwise. -/
theorem targetUrl_eq {job : List Char} {inst : Option (List Char)}
    (hempty : ∀ seg ∈ u.path.dropLast, seg ≠ []) (hjob : Url.Lasting job)
    (hinst : ∀ i ∈ inst, Url.Lasting i) :
    ∃ segs, Naming job (inst.getD []) segs ∧ Url.SlashFree segs ∧
      targetUrl u job inst = u.below segs := by
  have hmetrics : Url.Lasting "metrics".toList := Url.lasting_of_all (by decide) (by decide) (by decide)
  have hword : Url.Lasting "job".toList := Url.lasting_of_all (by decide) (by decide) (by decide)
  have hlasting : ∀ raw ∈ ["metrics".toList, "job".toList, job], Url.Lasting raw :=
    List.forall_mem_cons.2 ⟨hmetrics, List.forall_mem_cons.2
      ⟨hword, List.forall_mem_singleton.2 hjob⟩⟩
  have hslash : ∀ raws : List (List Char),
      Url.SlashFree (raws.map (percentEncode Url.inSegment)) := by
    intro raws seg hseg
    obtain ⟨raw, -, rfl⟩ := List.mem_map.1 hseg
    exact Url.slash_notMem_percentEncode fun _ => by decide
  have halone : u.popIfEmpty.extend ["metrics".toList, "job".toList, job] =
      u.below (["metrics".toList, "job".toList, job].map (percentEncode Url.inSegment)) :=
    Url.extend_popIfEmpty hempty (by decide) hlasting
  cases inst with
  | none => exact ⟨_, naming_job job, hslash _, halone⟩
  | some i =>
    by_cases hi : i = []
    · refine ⟨_, ?_, hslash _, (if_pos hi).trans halone⟩
      rw [hi]
      exact naming_job job
    · have hinstance : Url.Lasting "instance".toList :=
        Url.lasting_of_all (by decide) (by decide) (by decide)
      refine ⟨_, naming_both hi, hslash _, (if_neg hi).trans ?_⟩
      rw [Url.extend_extend]
      refine Url.extend_popIfEmpty hempty (by decide) (List.forall_mem_append.2 ⟨hlasting, ?_⟩)
      exact List.forall_mem_cons.2 ⟨hinstance, List.forall_mem_singleton.2 (hinst i rfl)⟩

/-- An empty instance is none. -/
theorem make_congr {endpoint job : String} {inst inst' : Option String}
    (h : inst.getD "" = inst'.getD "") : make endpoint job inst = make endpoint job inst' := by
  have hgetD : ∀ inst : Option String,
      make endpoint job inst = make endpoint job (some (inst.getD "")) := by
    intro inst
    cases inst <;> rfl
  rw [hgetD inst, h, ← hgetD]

theorem make_eq_error_iff {endpoint job : String} {inst : Option String} {fault : PublishFailure} :
    make endpoint job inst = .error fault ↔
      fault = .invalidEndpoint endpoint ∧ (job = "" ∨ Url.read? endpoint.toList = none) := by
  unfold make
  split
  · next u hread =>
    by_cases hjob : job = ""
    · rw [if_pos hjob]
      exact ⟨fun h => ⟨(Except.error.inj h).symm, .inl hjob⟩, fun h => congrArg _ h.1.symm⟩
    · rw [if_neg hjob]
      refine ⟨fun h => (nomatch h), ?_⟩
      rintro ⟨-, hempty | hnone⟩
      · exact absurd hempty hjob
      · rw [hread] at hnone
        cases hnone
  · next hnone =>
    exact ⟨fun h => ⟨(Except.error.inj h).symm, .inr hnone⟩, fun h => congrArg _ h.1.symm⟩

/-- Names that come through make a publisher below an endpoint that can be read. -/
theorem make_eq_ok {endpoint job : String} {inst : Option String}
    (hread : Url.read? endpoint.toList = some u) (hempty : ∀ seg ∈ u.path.dropLast, seg ≠ [])
    (hne : job ≠ "") (hjob : Url.Lasting job.toList) (hinst : ∀ i ∈ inst, Url.Lasting i.toList) :
    ∃ segs, Naming job.toList (inst.getD "").toList segs ∧ Url.SlashFree (u.base ++ segs) ∧
      make endpoint job inst = .ok { url := u.below segs } := by
  have hlasting : ∀ i ∈ inst.map String.toList, Url.Lasting i := by
    intro i hi
    obtain ⟨name, hname, rfl⟩ := Option.map_eq_some_iff.1 hi
    exact hinst name hname
  obtain ⟨segs, hnaming, hslash, htarget⟩ := targetUrl_eq hempty hjob hlasting
  have hinstance : (inst.map String.toList).getD [] = (inst.getD "").toList := by
    cases inst <;> rfl
  rw [hinstance] at hnaming
  refine ⟨segs, hnaming, (Url.slashFree_of_read? hread).base.append hslash, ?_⟩
  unfold make
  rw [hread]
  dsimp only
  rw [if_neg hne, htarget]

/-- Names of jobs and instances go into the URL without loss. Below an endpoint whose path has no empty
segment before its last, names that are not dots and hold nothing that URLs pass over follow the segments
of the endpoint, and the rest of it stays; so the names of one publisher are those of another exactly when
the URLs are the same. An endpoint that cannot be read, as one of another scheme, is refused, and so is a
job without a name. -/
theorem make_keeps_names (endpoint : String) :
    (∀ u, Url.read? endpoint.toList = some u → (∀ seg ∈ u.path.dropLast, seg ≠ []) →
      ∀ job inst, job ≠ "" → Url.Lasting job.toList → (∀ i ∈ inst, Url.Lasting i.toList) →
        (∃ segs, Naming job.toList (inst.getD "").toList segs ∧
          make endpoint job inst = .ok { url := { u with path := u.base ++ segs } } ∧
          fields '/' (u.below segs).pathText = [] :: (u.base ++ segs)) ∧
        ∀ job' inst', job' ≠ "" → Url.Lasting job'.toList → (∀ i ∈ inst', Url.Lasting i.toList) →
          ∀ p p', make endpoint job inst = .ok p → make endpoint job' inst' = .ok p' →
            (p.url.text = p'.url.text ↔ job = job' ∧ inst.getD "" = inst'.getD "")) ∧
      (∀ job inst fault, make endpoint job inst = .error fault ↔
        fault = .invalidEndpoint endpoint ∧ (job = "" ∨ Url.read? endpoint.toList = none)) ∧
      ((∀ s : Url.Scheme, ¬ Url.HasScheme endpoint.toList s.text) →
        Url.read? endpoint.toList = none) := by
  refine ⟨fun u hread hempty job inst hne hjob hinst => ⟨?_, ?_⟩, fun _ _ _ => make_eq_error_iff,
    fun hscheme => Option.eq_none_iff_forall_ne_some.2 fun u hread =>
      hscheme u.scheme (Url.hasScheme_of_read? hread)⟩
  · obtain ⟨segs, hnaming, hslash, hmake⟩ := make_eq_ok hread hempty hne hjob hinst
    exact ⟨segs, hnaming, hmake, Url.fields_pathText hslash⟩
  · intro job' inst' hne' hjob' hinst' p p' hp hp'
    obtain ⟨segs, hnaming, hslash, hmake⟩ := make_eq_ok hread hempty hne hjob hinst
    obtain ⟨segs', hnaming', hslash', hmake'⟩ := make_eq_ok hread hempty hne' hjob' hinst'
    obtain rfl := Except.ok.inj (hmake.symm.trans hp)
    obtain rfl := Except.ok.inj (hmake'.symm.trans hp')
    constructor
    · intro htext
      have hsegs := List.append_cancel_left (Url.path_inj_of_text hslash hslash' htext)
      rw [← hsegs] at hnaming'
      obtain ⟨hsame, hsame'⟩ := hnaming.unique hnaming'
      exact ⟨String.toList_injective hsame, String.toList_injective hsame'⟩
    · rintro ⟨rfl, hsame⟩
      rw [make_congr hsame, hp'] at hp
      rw [Except.ok.inj hp]

/-- An endpoint with a path and a query. -/
def exampleEndpoint : String := "https://gw.example:9091/base/?x=1"

/-- A job that looks encoded is named like any other, and it is told apart from the job without the rest. -/
theorem make_keeps_names_encoded :
    (∃ segs, Naming "a/%2e?".toList "é".toList segs ∧
      make exampleEndpoint "a/%2e?" (some "é") = .ok { url := {
        scheme := .https, host := .domain "gw.example".toList, port := some 9091
        path := "base".toList :: segs, query := some "x=1".toList } }) ∧
    ∀ p p', make exampleEndpoint "a/%2e?" (some "é") = .ok p →
      make exampleEndpoint "a" none = .ok p' → p.url.text ≠ p'.url.text := by
  have hread : Url.read? exampleEndpoint.toList = some {
      scheme := .https, host := .domain "gw.example".toList, port := some 9091
      path := ["base".toList, []], query := some "x=1".toList } := by
    decide +kernel
  obtain ⟨hmake, -, -⟩ := make_keeps_names exampleEndpoint
  have hinst : ∀ i ∈ some "é", Url.Lasting i.toList := by
    intro i hi
    obtain rfl := Option.some.inj hi
    exact Url.lasting_of_all (by decide) (by decide) (by decide)
  obtain ⟨⟨segs, hnaming, hok, -⟩, hapart⟩ := hmake _ hread (by decide) "a/%2e?" (some "é")
    (by decide) (Url.lasting_of_all (by decide) (by decide) (by decide)) hinst
  refine ⟨⟨segs, hnaming, hok⟩, fun p p' hp hp' htext => ?_⟩
  have hother : Url.Lasting "a".toList := Url.lasting_of_all (by decide) (by decide) (by decide)
  have hsame := (hapart "a" none (by decide) hother (fun _ h => (nomatch h)) p p' hp hp').1 htext
  exact absurd hsame.1 (by decide)

end Pushgateway

end HealthWatch
