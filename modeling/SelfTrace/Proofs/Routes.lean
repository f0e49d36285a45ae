import Mathlib.Data.List.Nodup
import SelfTrace.Log.Settings
import SelfTrace.Proofs.JsonReadings
import SelfTrace.Proofs.Overlays

/-!
# Two ways into the settings of the log

Three fields of the settings are given as texts: as values of variables, or as strings in JSON text.
Either way the same parser reads them.

* `overlayWith_eq_ok_iff`, `overlayWith_eq_error_iff` — when an overlay succeeds, and which variable
  it is refused for;
* `object_read`, `object_refused` — the same for an object with one of the fields in it;
* `routes_agree` — both ways accept the same texts, for the same values and with the same words.

What counts as a filter expression is left open.
-/

namespace SelfTrace.Log

variable {φ : Type}

/-! ## Fields given as texts -/

/-- A field of the settings that is given as a text. -/
inductive TextField where
  | format
  | level
  | zone
deriving DecidableEq

namespace TextField

/-- The fields in the order in which their variables are read. -/
def order : List TextField := [.format, .level, .zone]

/-- The variable that gives the field. -/
def envName : TextField → String
  | .format => "PERFDBG_LOG_FORMAT"
  | .level => "PERFDBG_LOG_LEVEL"
  | .zone => "PERFDBG_LOG_TZ"

/-- The field's name in JSON text. -/
def jsonName : TextField → String
  | .format => "format"
  | .level => "level"
  | .zone => "tz"

def Value : TextField → Type
  | .format => Format
  | .level => Level
  | .zone => Zone

def parse (read : FilterReader φ) : (x : TextField) → String → Except LogError x.Value
  | .format => Format.parse
  | .level => Level.parseWith read
  | .zone => Zone.parse

def get : (x : TextField) → Settings → x.Value
  | .format => Settings.format
  | .level => Settings.level
  | .zone => Settings.zone

def set : (x : TextField) → x.Value → Settings → Settings
  | .format => fun f s => { s with format := f }
  | .level => fun l s => { s with level := l }
  | .zone => fun z s => { s with zone := z }

theorem mem_order (x : TextField) : x ∈ order := by
  cases x <;> decide

theorem get_set_self (x : TextField) (a : x.Value) (s : Settings) : x.get (x.set a s) = a := by
  cases x <;> rfl

theorem get_set_ne {x y : TextField} (h : y ≠ x) (a : x.Value) (s : Settings) :
    y.get (x.set a s) = y.get s := by
  cases x <;> cases y <;> first | rfl | exact absurd rfl h

end TextField

/-! ## Overlays -/

namespace Settings

/-- What becomes of a field that a variable can replace: the variable's value as it is parsed if it
counts, and else what the field was before. -/
structure Parsed {α : Type} (env : Environment) (name : String)
    (parse : String → Except LogError α) (before after : α) : Prop where
  given : ∀ v, env.Gives name v → parse v = .ok after
  kept : (∀ v, ¬env.Gives name v) → after = before

variable {α : Type} {env : Environment} {name : String} {parse : String → Except LogError α}
  {own : α}

theorem fromVariable_given {v : String} (h : env.Gives name v) (own : α) :
    fromVariable env name parse own = (parse v).mapError (.env name) := by
  rw [fromVariable, (env.get?_eq_some_iff name v).2 h]
  dsimp only
  cases parse v <;> rfl

theorem fromVariable_kept (h : ∀ v, ¬env.Gives name v) (own : α) :
    fromVariable env name parse own = .ok own := by
  rw [fromVariable, (env.get?_eq_none_iff name).2 h]

theorem fromVariable_eq_ok_iff (a : α) :
    fromVariable env name parse own = .ok a ↔ Parsed env name parse own a := by
  by_cases hgives : ∃ v, env.Gives name v
  · obtain ⟨v, hv⟩ := hgives
    rw [fromVariable_given hv]
    constructor
    · intro hparse
      refine ⟨fun v' hv' => ?_, fun hnone => absurd hv (hnone v)⟩
      obtain rfl := hv.unique hv'
      cases hvalue : parse v with
      | ok b =>
        rw [hvalue] at hparse
        cases hparse
        rfl
      | error e =>
        rw [hvalue] at hparse
        cases hparse
    · intro h
      rw [h.given v hv]
      rfl
  · have hnone := not_exists.1 hgives
    rw [fromVariable_kept hnone]
    constructor
    · rintro ⟨rfl⟩
      exact ⟨fun v hv => absurd hv (hnone v), fun _ => rfl⟩
    · intro h
      rw [h.kept hnone]

theorem fromVariable_eq_error_iff (own : α) (e : LogError) :
    fromVariable env name parse own = .error e ↔
      ∃ v cause, env.Gives name v ∧ parse v = .error cause ∧ e = .env name cause := by
  constructor
  · intro h
    by_cases hgives : ∃ v, env.Gives name v
    · obtain ⟨v, hv⟩ := hgives
      rw [fromVariable_given hv] at h
      cases hvalue : parse v with
      | ok b =>
        rw [hvalue] at h
        cases h
      | error cause =>
        rw [hvalue] at h
        cases h
        exact ⟨v, cause, hv, hvalue, rfl⟩
    · rw [fromVariable_kept (not_exists.1 hgives)] at h
      cases h
  · rintro ⟨v, cause, hv, hcause, rfl⟩
    rw [fromVariable_given hv, hcause]
    rfl

end Settings

/-! ### The three fields together -/

section Overlay

variable (read : FilterReader φ) (env : Environment) (s : Settings)

/-- A field as an overlay reads it. -/
def TextField.overlaid (x : TextField) : Except LogError x.Value :=
  Settings.fromVariable env x.envName (x.parse read) (x.get s)

/-- Why an overlay is refused for a field, if it is. -/
def TextField.refusal? (x : TextField) : Option LogError :=
  match x.overlaid read env s with
  | .ok _ => none
  | .error e => some e

theorem TextField.refusal?_eq_some_iff (x : TextField) (e : LogError) :
    x.refusal? read env s = some e ↔
      ∃ v cause, env.Gives x.envName v ∧ x.parse read v = .error cause ∧
        e = .env x.envName cause := by
  rw [← Settings.fromVariable_eq_error_iff (x.get s)]
  unfold refusal? overlaid
  cases Settings.fromVariable env x.envName (x.parse read) (x.get s) with
  | ok a => simp
  | error e' => simp

/-- The field has a variable that counts, and its parser refuses the value in these words. -/
def TextField.Refused (x : TextField) (cause : LogError) : Prop :=
  ∃ v, env.Gives x.envName v ∧ x.parse read v = .error cause

theorem TextField.refusal?_eq_none_iff (x : TextField) :
    x.refusal? read env s = none ↔ ∀ cause, ¬x.Refused read env cause := by
  rw [Option.eq_none_iff_forall_ne_some]
  constructor
  · rintro h cause ⟨v, hv, hcause⟩
    exact h _ ((x.refusal?_eq_some_iff read env s _).2 ⟨v, cause, hv, hcause, rfl⟩)
  · intro h e he
    obtain ⟨v, cause, hv, hcause, -⟩ := (x.refusal?_eq_some_iff read env s e).1 he
    exact h cause ⟨v, hv, hcause⟩

namespace Settings

theorem overlayWith_eq :
    s.overlayWith read env =
      match TextField.format.overlaid read env s, TextField.level.overlaid read env s,
        TextField.zone.overlaid read env s with
      | .error e, _, _ => .error e
      | .ok _, .error e, _ => .error e
      | .ok _, .ok _, .error e => .error e
      | .ok f, .ok l, .ok z => .ok { s with format := f, level := l, zone := z } := by
  have hrun : s.overlayWith read env =
      (TextField.format.overlaid read env s).bind fun f =>
        (TextField.level.overlaid read env s).bind fun l =>
          (TextField.zone.overlaid read env s).bind fun z =>
            .ok { s with format := f, level := l, zone := z } := rfl
  rw [hrun]
  cases TextField.format.overlaid read env s with
  | error e => rfl
  | ok f =>
    cases TextField.level.overlaid read env s with
    | error e => rfl
    | ok l => cases TextField.zone.overlaid read env s <;> rfl

/-- An overlay succeeds with the settings whose three fields are parsed from their variables, where
those count, and are the old ones elsewhere. -/
theorem overlayWith_eq_ok_iff (after : Settings) :
    s.overlayWith read env = .ok after ↔
      (∀ x : TextField, Parsed env x.envName (x.parse read) (x.get s) (x.get after)) ∧
        after.withTargets = s.withTargets ∧ after.useColor = s.useColor := by
  have hfields : (∀ x : TextField, Parsed env x.envName (x.parse read) (x.get s) (x.get after)) ↔
      ∀ x : TextField, x.overlaid read env s = .ok (x.get after) :=
    forall_congr' fun x => (fromVariable_eq_ok_iff (x.get after)).symm
  rw [hfields, overlayWith_eq]
  constructor
  · intro h
    split at h
    · cases h
    · cases h
    · cases h
    · next hf hl hz =>
      cases h
      refine ⟨fun x => ?_, rfl, rfl⟩
      cases x with
      | format => exact hf
      | level => exact hl
      | zone => exact hz
  · rintro ⟨h, htargets, hcolor⟩
    rw [h .format, h .level, h .zone]
    obtain ⟨f, l, z, targets, color⟩ := after
    cases htargets
    cases hcolor
    rfl

/-- An overlay is refused for the first variable that counts and that its parser refuses. -/
theorem overlayWith_eq_error_iff (e : LogError) :
    s.overlayWith read env = .error e ↔
      ∃ front x behind cause, TextField.order = front ++ x :: behind ∧
        (∀ y ∈ front, ∀ cause, ¬y.Refused read env cause) ∧ x.Refused read env cause ∧
        e = .env x.envName cause := by
  -- the fields are tried in their order, and the overlay ends with the first that is refused
  have hfirst : s.overlayWith read env = .error e ↔
      TextField.order.findSome? (TextField.refusal? read env s) = some e := by
    rw [overlayWith_eq]
    simp only [TextField.order, TextField.refusal?, List.findSome?_cons, List.findSome?_nil]
    cases TextField.format.overlaid read env s with
    | error e' => simp
    | ok f =>
      cases TextField.level.overlaid read env s with
      | error e' => simp
      | ok l => cases TextField.zone.overlaid read env s <;> simp
  rw [hfirst, List.findSome?_eq_some_iff]
  constructor
  · rintro ⟨front, x, behind, horder, hx, hfront⟩
    obtain ⟨v, cause, hv, hcause, rfl⟩ := (x.refusal?_eq_some_iff read env s e).1 hx
    refine ⟨front, x, behind, cause, horder, fun y hy => ?_, ⟨v, hv, hcause⟩, rfl⟩
    exact (y.refusal?_eq_none_iff read env s).1 (hfront y hy)
  · rintro ⟨front, x, behind, cause, horder, hfront, ⟨v, hv, hcause⟩, rfl⟩
    refine ⟨front, x, behind, horder, ?_, fun y hy => ?_⟩
    · exact (x.refusal?_eq_some_iff read env s _).2 ⟨v, cause, hv, hcause, rfl⟩
    · exact (y.refusal?_eq_none_iff read env s).2 (hfront y hy)

/-- An overlay is refused exactly if some variable is. -/
theorem overlayWith_refused_iff :
    (∃ e, s.overlayWith read env = .error e) ↔
      ∃ (x : TextField) (cause : LogError), x.Refused read env cause := by
  constructor
  · rintro ⟨e, he⟩
    obtain ⟨-, x, -, cause, -, -, hrefused, -⟩ := (overlayWith_eq_error_iff read env s e).1 he
    exact ⟨x, cause, hrefused⟩
  · rintro ⟨x, cause, v, hv, hparse⟩
    cases hrun : s.overlayWith read env with
    | error e => exact ⟨e, rfl⟩
    | ok after =>
      have hvalue := (((overlayWith_eq_ok_iff read env s after).1 hrun).1 x).given v hv
      rw [hparse] at hvalue
      cases hvalue

end Settings

end Overlay

/-! ## JSON text -/

open Json (Takes TakesMember FailsMember)

/-- A member of an object that can be read as a field of the settings. -/
inductive Fits (read : FilterReader φ) : String × Json → Prop
  | text (x : TextField) {v : String} {a : x.Value} (h : x.parse read v = .ok a) :
      Fits read (x.jsonName, .string v)
  | withTargets (b : Bool) : Fits read ("with_targets", .bool b)
  | useColor (b : Bool) : Fits read ("use_color", .bool b)

namespace TextField

variable {read : FilterReader φ}

theorem find?_fieldsWith (read : FilterReader φ) (x : TextField) :
    (Settings.fieldsWith read).find? (·.name == x.jsonName) = some ⟨x.jsonName, fun s => do
      return x.set (← Json.readParsed (Settings.inWords (x.parse read))) s⟩ := by
  cases x <;> rfl

theorem takesMember {x : TextField} {v : String} {a : x.Value} (h : x.parse read v = .ok a) :
    TakesMember (Settings.fieldsWith read) (x.jsonName, .string v) (x.set a) := by
  have hwords : Settings.inWords (x.parse read) v = .ok a := by rw [Settings.inWords, h]
  refine ⟨_, x.find?_fieldsWith read, fun s rest _ => ?_⟩
  rw [Json.chars]
  exact (Json.readParsed_takes hwords rest).map fun b => x.set b s

theorem failsMember {x : TextField} {v : String} {e : LogError} (h : x.parse read v = .error e) :
    FailsMember (Settings.fieldsWith read) (x.jsonName, .string v) (.unfit e.message) := by
  have hwords : Settings.inWords (x.parse read) v = .error e.message := by rw [Settings.inWords, h]
  refine ⟨_, x.find?_fieldsWith read, fun s rest _ => ?_⟩
  rw [Json.chars]
  exact (Json.readParsed_fails hwords rest).bind _

end TextField

section Flags

variable (read : FilterReader φ) (b : Bool)

theorem withTargets_takesMember : TakesMember (Settings.fieldsWith read) ("with_targets", .bool b)
    fun s => { s with withTargets := b } :=
  ⟨_, rfl, fun s rest _ => (Json.readBool_takes b rest).map fun b => { s with withTargets := b }⟩

theorem useColor_takesMember : TakesMember (Settings.fieldsWith read) ("use_color", .bool b)
    fun s => { s with useColor := b } :=
  ⟨_, rfl, fun s rest _ => (Json.readBool_takes b rest).map fun b => { s with useColor := b }⟩

end Flags

/-- A member that fits is read, and leaves the fields of other names alone. -/
theorem Fits.takes {read : FilterReader φ} {m : String × Json} (h : Fits read m) :
    ∃ put, TakesMember (Settings.fieldsWith read) m put ∧
      ∀ x : TextField, x.jsonName ≠ m.1 → ∀ s, x.get (put s) = x.get s := by
  cases h with
  | @text y v a hparse =>
    refine ⟨y.set a, TextField.takesMember hparse, fun x hx s => TextField.get_set_ne ?_ a s⟩
    rintro rfl
    exact hx rfl
  | withTargets b =>
    refine ⟨_, withTargets_takesMember read b, fun x _ s => ?_⟩
    cases x <;> rfl
  | useColor b =>
    refine ⟨_, useColor_takesMember read b, fun x _ s => ?_⟩
    cases x <;> rfl

theorem get_foldl (x : TextField) {put : String × Json → Settings → Settings}
    {ms : List (String × Json)} (h : ∀ m ∈ ms, ∀ s, x.get (put m s) = x.get s) (s : Settings) :
    x.get (ms.foldl (fun r m => put m r) s) = x.get s := by
  induction ms generalizing s with
  | nil => rfl
  | cons m ms ih =>
    rw [List.foldl_cons, ih fun n hn => h n (List.mem_cons_of_mem m hn)]
    exact h m List.mem_cons_self s

section Objects

variable {read : FilterReader φ} {x : TextField} {v : String} {front behind : List (String × Json)}

/-- Each member is read, and of all of them only that of a field decides about its value. -/
theorem exists_put {a : x.Value} (hparse : x.parse read v = .ok a)
    (hfits : ∀ m ∈ front ++ behind, Fits read m)
    (hnodup : ((front ++ (x.jsonName, .string v) :: behind).map (·.1)).Nodup) :
    ∀ m ∈ front ++ (x.jsonName, .string v) :: behind,
      ∃ put, TakesMember (Settings.fieldsWith read) m put ∧
        (m.1 ≠ x.jsonName → ∀ s, x.get (put s) = x.get s) ∧
        (m.1 = x.jsonName → ∀ s, x.get (put s) = a) := by
  intro m hm
  by_cases hname : m.1 = x.jsonName
  · obtain rfl : m = (x.jsonName, .string v) :=
      List.inj_on_of_nodup_map hnodup hm (by simp) hname
    exact ⟨x.set a, TextField.takesMember hparse, fun hne => absurd rfl hne,
      fun _ s => x.get_set_self a s⟩
  · have hother : m ∈ front ++ behind := by
      rcases List.mem_append.1 hm with hfront | hm
      · exact List.mem_append_left behind hfront
      · rcases List.mem_cons.1 hm with rfl | hbehind
        · exact absurd rfl hname
        · exact List.mem_append_right front hbehind
    obtain ⟨put, htakes, hkept⟩ := (hfits m hother).takes
    exact ⟨put, htakes, fun hne => hkept x hne.symm, fun heq => absurd heq hname⟩

/-- An object is read if its members fit, and a field then has the value that its member is parsed
to. -/
theorem object_read {a : x.Value} (hparse : x.parse read v = .ok a)
    (hfits : ∀ m ∈ front ++ behind, Fits read m)
    (hnodup : ((front ++ (x.jsonName, .string v) :: behind).map (·.1)).Nodup) :
    ∃ t, Settings.ofJsonTextWith read
        (Json.object (front ++ (x.jsonName, .string v) :: behind)).text = .ok t ∧ x.get t = a := by
  have hputs := exists_put hparse hfits hnodup
  have hnonempty : Nonempty (Settings → Settings) := ⟨id⟩
  choose! put htakes hkept hself using hputs
  have hread := Json.readRecord_takes put htakes hnodup "struct LoggerConfig" {} []
  rw [List.append_nil] at hread
  refine ⟨_, Json.readDocument_eq hread, ?_⟩
  -- the members behind that of the field have other names, and leave its value alone
  rw [List.map_append, List.map_cons] at hnodup
  have hbehind := (List.nodup_cons.1 (List.nodup_append.1 hnodup).2.1).1
  rw [List.foldl_append, List.foldl_cons, get_foldl x fun m hm => ?_]
  · exact hself _ (by simp) rfl _
  · refine hkept m ?_ fun hname => hbehind (List.mem_map.2 ⟨m, hm, hname⟩)
    exact List.mem_append_right front (List.mem_cons_of_mem _ hm)

/-- An object in which all other members fit is refused in the words in which its member is. -/
theorem object_refused {e : LogError} (hparse : x.parse read v = .error e)
    (hfits : ∀ m ∈ front ++ behind, Fits read m)
    (hnodup : ((front ++ (x.jsonName, .string v) :: behind).map (·.1)).Nodup) :
    Settings.ofJsonTextWith read
      (Json.object (front ++ (x.jsonName, .string v) :: behind)).text =
        .error (.unfit e.message) := by
  have hfront : ∀ m ∈ front, ∃ put, TakesMember (Settings.fieldsWith read) m put := by
    intro m hm
    obtain ⟨put, hput, -⟩ := (hfits m (List.mem_append_left behind hm)).takes
    exact ⟨put, hput⟩
  have hread := Json.readRecord_fails hfront (TextField.failsMember hparse) hnodup
    "struct LoggerConfig" {} []
  rw [List.append_nil] at hread
  exact Json.readDocument_fails hread

end Objects

/-! ## Both ways -/

/-- What comes of giving a field as the value of a variable and as a string in JSON text. -/
structure RoutesAgree (x : TextField) (fromEnv : Except LogError Settings)
    (fromJson : Except Json.Problem Settings) : Prop where
  accepted : (∃ s, fromEnv = .ok s) ↔ ∃ t, fromJson = .ok t
  value : ∀ s t, fromEnv = .ok s → fromJson = .ok t → x.get s = x.get t
  refused : ∀ words, (∃ cause, fromEnv = .error (.env x.envName cause) ∧ cause.message = words) ↔
    fromJson = .error (.unfit words)

section Given

variable {read : FilterReader φ} {x : TextField} {v : String} {env : Environment}

/-- Where no other variable is refused, a field has the value that its variable is parsed to. -/
theorem overlayWith_accepted (hv : env.Gives x.envName v)
    (hothers : ∀ y ≠ x, ∀ cause, ¬y.Refused read env cause) {a : x.Value}
    (hparse : x.parse read v = .ok a) (s : Settings) :
    ∃ t, s.overlayWith read env = .ok t ∧ x.get t = a := by
  cases hrun : s.overlayWith read env with
  | ok t =>
    have hvalue := (((Settings.overlayWith_eq_ok_iff read env s t).1 hrun).1 x).given v hv
    rw [hparse] at hvalue
    exact ⟨t, rfl, (Except.ok.inj hvalue).symm⟩
  | error e =>
    exfalso
    obtain ⟨y, cause, hrefused⟩ := (Settings.overlayWith_refused_iff read env s).1 ⟨e, hrun⟩
    by_cases hy : y = x
    · subst hy
      obtain ⟨v', hv', hcause⟩ := hrefused
      obtain rfl := hv.unique hv'
      rw [hparse] at hcause
      cases hcause
    · exact hothers y hy cause hrefused

/-- Where no other variable is refused, an overlay is refused for a field's variable if its value
is. -/
theorem overlayWith_refused (hv : env.Gives x.envName v)
    (hothers : ∀ y ≠ x, ∀ cause, ¬y.Refused read env cause) {cause : LogError}
    (hparse : x.parse read v = .error cause) (s : Settings) :
    s.overlayWith read env = .error (.env x.envName cause) := by
  obtain ⟨front, behind, horder⟩ := List.append_of_mem x.mem_order
  refine (Settings.overlayWith_eq_error_iff read env s _).2
    ⟨front, x, behind, cause, horder, fun y hy => hothers y ?_, ⟨v, hv, hparse⟩, rfl⟩
  rintro rfl
  have hnodup : (front ++ y :: behind).Nodup := horder ▸ (by decide : TextField.order.Nodup)
  exact (List.nodup_middle.1 hnodup |> List.nodup_cons.1).1 (List.mem_append_left behind hy)

end Given

/-- An overlay of the settings fails exactly if some variable counts and its parser refuses the
value; the error then names the first such variable, with the parser's own error. Otherwise the
three fields are parsed from their variables where those count, and nothing else changes.

A text that counts gives a field the same value as its variable and as a member of an object, or is
refused in the same words. -/
theorem routes_agree (read : FilterReader φ) :
    (∀ (s : Settings) (env : Environment),
      ((∃ e, s.overlayWith read env = .error e) ↔
        ∃ (x : TextField) (cause : LogError), x.Refused read env cause) ∧
      (∀ e, s.overlayWith read env = .error e ↔
        ∃ front x behind cause, [TextField.format, .level, .zone] = front ++ x :: behind ∧
          (∀ y ∈ front, ∀ cause, ¬y.Refused read env cause) ∧ x.Refused read env cause ∧
          e = .env x.envName cause) ∧
      ∀ after, s.overlayWith read env = .ok after ↔
        (∀ x : TextField, Settings.Parsed env x.envName (x.parse read) (x.get s) (x.get after)) ∧
          after.withTargets = s.withTargets ∧ after.useColor = s.useColor) ∧
    ∀ (x : TextField) (v : String) (s : Settings) (env : Environment)
      (front behind : List (String × Json)), env.Gives x.envName v →
      (∀ y ≠ x, ∀ cause, ¬y.Refused read env cause) →
      (∀ m ∈ front ++ behind, Fits read m) →
      ((front ++ (x.jsonName, .string v) :: behind).map (·.1)).Nodup →
      RoutesAgree x (s.overlayWith read env) (Settings.ofJsonTextWith read
        (Json.object (front ++ (x.jsonName, .string v) :: behind)).text) := by
  constructor
  · intro s env
    exact ⟨s.overlayWith_refused_iff read env, s.overlayWith_eq_error_iff read env,
      s.overlayWith_eq_ok_iff read env⟩
  · intro x v s env front behind hv hothers hfits hnodup
    -- either way the same parser decides, so it is enough to follow what it says of the text
    cases hparse : x.parse read v with
    | ok a =>
      obtain ⟨t, ht, hta⟩ := overlayWith_accepted hv hothers hparse s
      obtain ⟨u, hu, hua⟩ := object_read hparse hfits hnodup
      rw [ht, hu]
      refine ⟨⟨fun _ => ⟨u, rfl⟩, fun _ => ⟨t, rfl⟩⟩, ?_, ?_⟩
      · rintro _ _ ⟨rfl⟩ ⟨rfl⟩
        rw [hta, hua]
      · simp
    | error cause =>
      rw [overlayWith_refused hv hothers hparse s, object_refused hparse hfits hnodup]
      refine ⟨by simp, by simp, fun words => ?_⟩
      simp

/-- A layout, a level with blanks around it, and a time zone that does not count. -/
def loudCore : Environment := Environment.ofList [
  ("PERFDBG_LOG_FORMAT", "JSON"),
  ("PERFDBG_LOG_LEVEL", "  perfdbg_core=loud \n"),
  ("PERFDBG_LOG_TZ", " ")]

theorem loudCore_level : loudCore.Gives TextField.level.envName "  perfdbg_core=loud \n" :=
  ⟨rfl, 'p', by decide, rfl⟩

theorem loudCore_others :
    ∀ y ≠ TextField.level, ∀ cause, ¬y.Refused Filter.read loudCore cause := by
  rintro y hy cause ⟨v, ⟨hv, c, hc, hblank⟩, hcause⟩
  cases y with
  | format =>
    obtain rfl : "JSON" = v := Option.some.inj hv
    cases hcause
  | level => exact hy rfl
  | zone =>
    obtain rfl : " " = v := Option.some.inj hv
    obtain rfl : c = ' ' := by simpa using hc
    cases hblank

theorem routes_agree_loud :
    loudCore.Gives TextField.level.envName "  perfdbg_core=loud \n" ∧
    (∀ y ≠ TextField.level, ∀ cause, ¬y.Refused Filter.read loudCore cause) ∧
    (∀ m ∈ [("format", Json.string "Journald"), ("use_color", .bool false)], Fits Filter.read m) ∧
    RoutesAgree .level (({} : Settings).overlay loudCore) (Settings.ofJsonText (Json.object [
      ("format", .string "Journald"),
      ("level", .string "  perfdbg_core=loud \n"),
      ("use_color", .bool false)]).text) := by
  have hfits : ∀ m ∈ [("format", Json.string "Journald"), ("use_color", .bool false)],
      Fits Filter.read m := by
    intro m hm
    simp only [List.mem_cons, List.not_mem_nil, or_false] at hm
    rcases hm with rfl | rfl
    · exact .text (a := Format.journald) .format rfl
    · exact .useColor false
  exact ⟨loudCore_level, loudCore_others, hfits, (routes_agree Filter.read).2 .level _ {} loudCore
    [("format", .string "Journald")] [("use_color", .bool false)] loudCore_level loudCore_others
    hfits (by decide)⟩

end SelfTrace.Log
