import Mathlib.Algebra.GroupWithZero.Nat
import Mathlib.Data.List.Induction
import SelfTrace.Metrics.Collector

/-!
# The metrics of an agent

What an agent's two metrics are called in a sanitized namespace, and how they are labelled.

* `make_of_sanitized` — a collector can be made in every sanitized namespace;
* `generator_name_ne_tasks_name` — no namespaces give a gauge the name of a counter;
* `Standard` — the descriptors of all agents; those of one name agree in help text and labels;
* `identity_generator_ne_tasks` — the two metrics of an agent never have the same fingerprint.
-/

namespace SelfTrace.Metrics

/-! ## Sanitized namespaces -/

theorem isName_mono {start start' : Char → Bool} (h : ∀ c, start c = true → start' c = true)
    {name : List Char} (hname : isName start name = true) : isName start' name = true := by
  cases name with
  | nil => exact hname
  | cons c cs =>
    simp only [isName, Bool.and_eq_true, List.all_eq_true, Bool.or_eq_true] at hname ⊢
    refine ⟨h c hname.1, ?_⟩
    intro d hd
    exact (hname.2 d hd).imp_left (h d)

theorem isName_append {start : Char → Bool} {name rest : List Char}
    (hname : isName start name = true)
    (hrest : (rest.all fun d => start d || isFigure d) = true) :
    isName start (name ++ rest) = true := by
  cases name with
  | nil => cases hname
  | cons c cs =>
    simp only [isName, Bool.and_eq_true, List.cons_append, List.all_append] at hname ⊢
    exact ⟨hname.1, hname.2, hrest⟩

theorem isMetricStart_of_isLabelStart (c : Char) (h : isLabelStart c = true) :
    isMetricStart c = true := by
  simp [isMetricStart, h]

theorem sanitizedChar_mem (c : Char) :
    (isLabelStart (sanitizedChar c) || isFigure (sanitizedChar c)) = true := by
  unfold sanitizedChar
  split
  next h =>
    rw [Bool.or_eq_true] at h
    rcases h with h | h
    · simp [isLabelStart, h]
    · simp [h]
  next => decide

/-- A sanitized namespace is a name, also for a label. -/
theorem sanitize?_isName {raw ns : List Char} (h : sanitize? raw = some ns) :
    isName isLabelStart ns = true := by
  unfold sanitize? at h
  cases htrim : (Text.trim raw).map sanitizedChar with
  | nil => simp [htrim] at h
  | cons c cs =>
    have hall : ∀ d ∈ c :: cs, (isLabelStart d || isFigure d) = true := by
      intro d hd
      rw [← htrim] at hd
      obtain ⟨d, -, rfl⟩ := List.mem_map.1 hd
      exact sanitizedChar_mem d
    simp only [htrim, Option.some.injEq] at h
    split at h
    next => -- a figure in front is put behind an underscore
      subst h
      simp only [isName, Bool.and_eq_true]
      exact ⟨by decide, List.all_eq_true.2 hall⟩
    next hfigure =>
      subst h
      simp only [isName, Bool.and_eq_true]
      refine ⟨?_, List.all_eq_true.2 fun d hd => hall d (List.mem_cons_of_mem c hd)⟩
      have hc := hall c List.mem_cons_self
      simpa [hfigure] using hc

/-- A namespace that is the sanitized form of some namespace. -/
def Sanitized (ns : String) : Prop := ∃ raw, sanitizeText? raw = some ns

theorem Sanitized.isName {ns : String} (h : Sanitized ns) :
    isName isLabelStart ns.toList = true := by
  obtain ⟨raw, h⟩ := h
  obtain ⟨name, hname, rfl⟩ := Option.map_eq_some_iff.1 h
  rw [String.toList_ofList]
  exact sanitize?_isName hname

theorem Sanitized.ne_empty {ns : String} (h : Sanitized ns) : ns ≠ "" := by
  rintro rfl
  cases h.isName

/-- Only a namespace of blanks cannot be sanitized. -/
theorem sanitizeText?_eq_none_iff (ns : String) :
    sanitizeText? ns = none ↔ Text.trimmed ns = "" := by
  rw [sanitizeText?, Option.map_eq_none_iff, sanitize?_eq_none_iff, ← Text.trim_eq_nil_iff,
    Text.trimmed, String.ofList_eq_empty_iff]

/-! ## Names and labels -/

def generatorName (ns : String) : String := ns ++ "_generator_info"

def tasksName (ns : String) : String := ns ++ "_sender_tasks_total"

@[simp] theorem generatorName_inj (ns ns' : String) :
    generatorName ns = generatorName ns' ↔ ns = ns' := by
  simp [generatorName]

@[simp] theorem tasksName_inj (ns ns' : String) : tasksName ns = tasksName ns' ↔ ns = ns' := by
  simp [tasksName]

/-- The last characters of the two names differ. -/
theorem generator_name_ne_tasks_name (ns ns' : String) : generatorName ns ≠ tasksName ns' := by
  intro h
  have hlast := congrArg (fun s : String => s.toList.getLast?) h
  simp [generatorName, tasksName] at hlast

/-- The descriptor of an agent's gauge. -/
def generatorDescriptor (ns agent : String) : Descriptor :=
  ⟨generatorName ns, "Workload generator currently in use", [("agent", agent)], ["generator"]⟩

/-- The descriptor of an agent's counter. -/
def tasksDescriptor (ns agent : String) : Descriptor :=
  ⟨tasksName ns, "Total number of sender tasks created", [("agent", agent)], []⟩

theorem generator_labels (ns agent generator : String) :
    Collector.labels (generatorDescriptor ns agent) [generator] =
      [("agent", agent), ("generator", generator)] :=
  List.mergeSort_of_pairwise (by simp [generatorDescriptor])

theorem tasks_labels (ns agent : String) :
    Collector.labels (tasksDescriptor ns agent) [] = [("agent", agent)] :=
  List.mergeSort_of_pairwise (by simp [tasksDescriptor])

/-- The new collector of an agent in a namespace. -/
def Collector.fresh (ns agent : String) : Collector where
  generator := generatorDescriptor ns agent
  tasks := tasksDescriptor ns agent

/-- What follows a sanitized namespace in the name of a metric does not spoil it. -/
theorem Sanitized.validMetricName_append {ns : String} (h : Sanitized ns) (rest : String)
    (hrest : (rest.toList.all fun d => isLabelStart d || isFigure d) = true) :
    validMetricName (ns ++ rest).toList = true := by
  rw [String.toList_append]
  exact isName_mono isMetricStart_of_isLabelStart (isName_append h.isName hrest)

/-- `Descriptor.make` for the metric of an agent. -/
theorem Descriptor.make_of_valid (name help agent : String) (varying : List String)
    (hhelp : help.isEmpty = false) (hname : validMetricName name.toList = true)
    (hlabels : ("agent" :: varying).find? (fun l => !validLabelName l.toList) = none) :
    Descriptor.make name help [("agent", agent)] varying =
      .ok ⟨name, help, [("agent", agent)], varying⟩ := by
  simp only [make, List.mergeSort_singleton, hhelp, hname, List.map_cons, List.map_nil,
    List.cons_append, List.nil_append, hlabels]
  rfl

theorem make_of_sanitized {ns : String} (h : Sanitized ns) (agent : String) :
    Collector.make ns agent = .ok (Collector.fresh ns agent) := by
  have hgenerator : qualified ns "generator_info" = generatorName ns := by
    simp [qualified, generatorName, h.ne_empty, String.append_assoc]
  have htasks : qualified ns "sender_tasks_total" = tasksName ns := by
    simp [qualified, tasksName, h.ne_empty, String.append_assoc]
  have hmakeGenerator := Descriptor.make_of_valid (generatorName ns)
    "Workload generator currently in use" agent ["generator"] (by decide)
    (h.validMetricName_append "_generator_info" (by decide)) (by decide)
  have hmakeTasks := Descriptor.make_of_valid (tasksName ns)
    "Total number of sender tasks created" agent [] (by decide)
    (h.validMetricName_append "_sender_tasks_total" (by decide)) (by decide)
  rw [Collector.make, hgenerator, htasks, hmakeGenerator]
  simp only
  rw [hmakeTasks]
  rfl

/-! ## The descriptors of all agents -/

/-- The descriptor of some agent's gauge or counter. -/
inductive Standard : Descriptor → Prop where
  | generator (ns agent : String) : Standard (generatorDescriptor ns agent)
  | tasks (ns agent : String) : Standard (tasksDescriptor ns agent)

theorem Collector.fresh_standard (ns agent : String) :
    ∀ d ∈ (Collector.fresh ns agent).descriptors, Standard d := by
  intro d hd
  simp only [descriptors, List.mem_cons, List.not_mem_nil, or_false] at hd
  rcases hd with rfl | rfl
  · exact .generator ns agent
  · exact .tasks ns agent

/-- Descriptors of one name agree in help text and labels. -/
theorem Standard.dimensions_eq {d d' : Descriptor} (h : Standard d) (h' : Standard d')
    (hname : d.name = d'.name) : d.dimensions = d'.dimensions := by
  cases h with
  | generator ns agent =>
    cases h' with
    | generator ns' agent' => rfl
    | tasks ns' agent' => exact absurd hname (generator_name_ne_tasks_name ns ns')
  | tasks ns agent =>
    cases h' with
    | generator ns' agent' => exact absurd hname.symm (generator_name_ne_tasks_name ns' ns)
    | tasks ns' agent' => rfl

/-- A descriptor belongs to one namespace and one agent. -/
theorem identityTexts_generator_inj {ns ns' agent agent' : String}
    (h : (generatorDescriptor ns agent).identityTexts =
      (generatorDescriptor ns' agent').identityTexts) : ns = ns' ∧ agent = agent' := by
  simpa [Descriptor.identityTexts, generatorDescriptor] using h

theorem identityTexts_tasks_inj {ns ns' agent agent' : String}
    (h : (tasksDescriptor ns agent).identityTexts = (tasksDescriptor ns' agent').identityTexts) :
    ns = ns' ∧ agent = agent' := by
  simpa [Descriptor.identityTexts, tasksDescriptor] using h

theorem identityTexts_generator_ne_tasks (ns ns' agent agent' : String) :
    (generatorDescriptor ns agent).identityTexts ≠ (tasksDescriptor ns' agent').identityTexts := by
  intro h
  exact generator_name_ne_tasks_name ns ns' (List.cons.inj h).1

/-! ## Fingerprints of one agent -/

theorem xor_mod_two (m n : Nat) : (m ^^^ n) % 2 = (m + n) % 2 := by
  have hpow := @Nat.xor_mod_two_pow m n 1
  rw [Nat.pow_one] at hpow
  rw [hpow, Nat.add_mod]
  rcases Nat.mod_two_eq_zero_or_one m with hm | hm <;>
    rcases Nat.mod_two_eq_zero_or_one n with hn | hn <;> rw [hm, hn] <;> rfl

/-- To mix in an octet adds it to the lowest bit, since the factor is odd. -/
theorem mix_mod_two (h : UInt64) (b : UInt8) :
    (mix h b).toNat % 2 = (h.toNat + b.toNat) % 2 := by
  have hfactor : (0x100000001b3 : UInt64).toNat % 2 = 1 := rfl
  rw [mix, UInt64.toNat_mul, Nat.mod_mod_of_dvd _ (by decide), Nat.mul_mod, hfactor,
    UInt64.toNat_xor, UInt8.toNat_toUInt64, xor_mod_two, Nat.mul_one, Nat.mod_mod]

/-- What a text and its end add to the lowest bit of a fingerprint. -/
def octetSum (s : String) : Nat := ((Text.octets s).map UInt8.toNat).sum + 255

theorem mixText_mod_two (h : UInt64) (s : String) :
    (mixText h s).toNat % 2 = (h.toNat + octetSum s) % 2 := by
  have hend : (0xFF : UInt8).toNat = 255 := rfl
  have hfold : ∀ (octets : List UInt8) (h : UInt64),
      (octets.foldl mix h).toNat % 2 = (h.toNat + (octets.map UInt8.toNat).sum) % 2 := by
    intro octets
    induction octets with
    | nil => exact fun _ => rfl
    | cons b octets ih =>
      intro h
      have hmix := mix_mod_two h b
      rw [List.foldl_cons, ih, List.map_cons, List.sum_cons]
      omega
  have hoctets := hfold (Text.octets s) h
  rw [mixText, mix_mod_two, hend, octetSum]
  omega

theorem fingerprint_mod_two (texts : List String) :
    (fingerprint texts).toNat % 2 = (1 + (texts.map octetSum).sum) % 2 := by
  induction texts using List.reverseRecOn with
  | nil => rfl
  | append_singleton texts s ih =>
    have hlast := mixText_mod_two (fingerprint texts) s
    rw [fingerprint, List.foldl_append, List.map_append, List.sum_append]
    show (mixText (fingerprint texts) s).toNat % 2 = _
    rw [hlast, List.map_singleton, List.sum_singleton]
    omega

/-- The gauge and the counter of an agent differ in the lowest bit of their fingerprints. -/
theorem identity_generator_ne_tasks (ns agent : String) :
    (generatorDescriptor ns agent).identity ≠ (tasksDescriptor ns agent).identity := by
  have hname : ∀ rest : String, (fingerprint [ns ++ rest, agent]).toNat % 2 =
      (octetSum ns + octetSum rest + octetSum agent) % 2 := by
    intro rest
    have hsum : octetSum (ns ++ rest) + 255 = octetSum ns + octetSum rest := by
      simp only [octetSum, Text.octets, Text.encode, String.toList_append, List.flatMap_append,
        List.map_append, List.sum_append]
      omega
    rw [fingerprint_mod_two]
    simp only [List.map_cons, List.map_nil, List.sum_cons, List.sum_nil]
    omega
  have hgenerator : octetSum "_generator_info" % 2 = 0 := by decide +kernel
  have htasks : octetSum "_sender_tasks_total" % 2 = 1 := by decide +kernel
  intro heq
  have hbits : (fingerprint [ns ++ "_generator_info", agent]).toNat % 2 =
      (fingerprint [ns ++ "_sender_tasks_total", agent]).toNat % 2 :=
    congrArg (fun h : UInt64 => h.toNat % 2) heq
  rw [hname, hname] at hbits
  omega

end SelfTrace.Metrics
