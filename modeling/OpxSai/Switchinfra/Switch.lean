import OpxSai.Common.Object
import OpxSai.Lib.Run

/-!
# The switch object and the NPU library

`sai_create_switch` loads the NPU library at `INIT_SWITCH` and then goes on to the calls of its
method table. The state has what the loader holds, and every step of the code that needs the library
with what was loaded when the step was reached.

* `SwitchLoaded` — the library is needed only while it is loaded, and the flag says when it is;
* `switchLoaded_of_run` — so in every run whose calls fit.
-/

variable {ans : SwitchAnswers} (attr_list : List SwitchAttr) (attr_idx : Nat) {s : SwitchState}

namespace OpxSai

/-- What the calls here write of `sai_switch_info_t`. -/
structure SwitchInfo where
  switch_init_flag : Bool := false
  switch_object_id : Oid := .null
  profile_id : Nat := 0
  switch_hardware_info : List Int := []
  microcode_module_name : List Int := []

/-- The steps that need the library. `setAttribute` stands for what the setter of a switch attribute
reaches. -/
inductive NpuUse where
  | switchInitConfig | switchInit | modulesInitialize | setAttribute (attr_idx : Nat) | dlclose
deriving DecidableEq

structure SwitchState where
  info : SwitchInfo := {}
  lib_handle : Bool := false   -- `npu_api_lib_handle` is not `NULL`
  method_table : Bool := false   -- `sai_npu_api_method_table` is not `NULL`
  opened : Nat := 0        -- opens of the library less its closes
  loaded : Bool := false   -- from a load that succeeds to the next unload
  uses : List (NpuUse × Bool) := []

def SwitchState.use (s : SwitchState) (u : NpuUse) : SwitchState :=
  { s with uses := s.uses ++ [(u, s.loaded)] }

/-- `sai_attribute_t` of a switch: the ids that creation looks at, and all others. -/
inductive SwitchAttr where
  | initSwitch (booldata : Bool)
  | switchProfileId (u32 : Nat)
  | switchHardwareInfo (s8list : List Int)
  | firmwarePathName (s8list : List Int)
  | other (id value : Nat)
deriving DecidableEq

/-- A child of the root of a configuration file, with what its handler answers. -/
inductive InitNode where
  | generic (ret_code : Status)
  | vendor (ret_code : Status)
  | unknownType
  | noType
  | notPlatformInfo
deriving DecidableEq

/-- What the outside answers during one call. -/
structure SwitchAnswers where
  defaultSwitchId : Oid := ⟨.other, 0⟩
  attrListValidate : Status := .success
  dlopen : Bool := true
  dlsym : Bool := true
  query : Bool := true
  initConfigFile : Nat → Option String := fun _ => none
  -- `std_config_load`, of `SAI_INIT_CONFIG_FILE` where the profile names none
  configLoad : Option String → Option (List InitNode) := fun _ => some []
  switchInit : Status := .success
  modulesInitialize : Status := .success
  setAttribute : Nat → Status := fun _ => .success

/-! ## The calls -/

/-- `sai_npu_api_initialize` -/
def npuApiInitialize (ans : SwitchAnswers) (s : SwitchState) : Status × SwitchState :=
  if !ans.dlopen then (.failure, { s with lib_handle := false })
  else
    let s := { s with lib_handle := true, opened := s.opened + 1 }
    -- without the query function the table stays what it was
    let s := if ans.dlsym then { s with method_table := ans.query } else s
    if !s.method_table then (.failure, s) else (.success, { s with loaded := true })

/-- `sai_npu_api_uninitialize` -/
def npuApiUninitialize (dlclose_ok : Bool) (s : SwitchState) : SwitchState :=
  let s := s.use .dlclose
  { s with
    method_table := false, loaded := false, lib_handle := false
    opened := if s.lib_handle && dlclose_ok then s.opened - 1 else s.opened }

/-- `sai_switch_api_initialize` -/
def switchApiInitialize (ans : SwitchAnswers) (value : Bool) (s : SwitchState) :
    Status × SwitchState :=
  if !value then (.notSupported, s) else npuApiInitialize ans s

/-- `sai_switch_create_attr` -/
def switchCreateAttr (ans : SwitchAnswers) (attr : SwitchAttr) (s : SwitchState) :
    Status × SwitchState :=
  match attr with
  | .initSwitch booldata =>
      if !s.info.switch_init_flag then
        let (ret_val, s) := switchApiInitialize ans booldata s
        -- the flag is the value asked for, whatever the load returned
        (ret_val, { s with info := { s.info with
          switch_init_flag := booldata, switch_object_id := ans.defaultSwitchId } })
      else (.success, s)
  | .switchProfileId u32 => (.success, { s with info := { s.info with profile_id := u32 } })
  | .switchHardwareInfo l =>
      (.success, { s with info := { s.info with switch_hardware_info := l } })
  | .firmwarePathName l => (.success, { s with info := { s.info with microcode_module_name := l } })
  | .other _ _ => (.success, s)

/-- The first loop of `sai_create_switch`: the answer of the attribute it stops at, if any. -/
def switchCreateAttrs (ans : SwitchAnswers) :
    Nat → List SwitchAttr → SwitchState → Option Status × SwitchState
  | _, [], s => (none, s)
  | attr_idx, attr :: attr_list, s =>
      let (ret_val, s) := switchCreateAttr ans attr s
      if ret_val ≠ .success then (some (getIndexedRetVal ret_val attr_idx), s)
      else switchCreateAttrs ans (attr_idx + 1) attr_list s

/-- `sai_switch_init_file_handler` -/
def switchInitFileHandler : List InitNode → SwitchState → Status × SwitchState
  | [], s => (.success, s)
  | .generic ret_code :: nodes, s =>
      if ret_code ≠ .success then (ret_code, s) else switchInitFileHandler nodes s
  | .vendor ret_code :: nodes, s =>
      let s := s.use .switchInitConfig
      if ret_code ≠ .success then (ret_code, s) else switchInitFileHandler nodes s
  | .unknownType :: nodes, s => switchInitFileHandler nodes s
  | .noType :: _, s => (.invalidParameter, s)
  | .notPlatformInfo :: _, s => (.invalidParameter, s)

/-- The file that `sai_switch_init_config` loads for a profile. -/
def SwitchAnswers.config (ans : SwitchAnswers) (profile_id : Nat) : Option (List InitNode) :=
  ans.configLoad (ans.initConfigFile profile_id)

/-- `sai_switch_init_config` -/
def switchInitConfig (ans : SwitchAnswers) (s : SwitchState) : Status × SwitchState :=
  match ans.config s.info.profile_id with
  | none => (.invalidParameter, s)
  | some nodes => switchInitFileHandler nodes s

/-- The last loop of `sai_create_switch`, over the attributes that the first left alone. -/
def switchSetAttrs (ans : SwitchAnswers) :
    Nat → List SwitchAttr → SwitchState → Status × SwitchState
  | _, [], s => (.success, s)
  | attr_idx, .other _ _ :: attr_list, s =>
      let s := s.use (.setAttribute attr_idx)
      if ans.setAttribute attr_idx ≠ .success then (ans.setAttribute attr_idx, s)
      else switchSetAttrs ans (attr_idx + 1) attr_list s
  | attr_idx, _ :: attr_list, s => switchSetAttrs ans (attr_idx + 1) attr_list s

/-- The `do … while (0)` of `sai_create_switch`. -/
def switchBringUp (attr_list : List SwitchAttr) (ans : SwitchAnswers) (s : SwitchState) :
    Status × SwitchState :=
  let (ret_val, s) := switchInitConfig ans s
  if ret_val ≠ .success then (ret_val, s)
  else
    let s := s.use .switchInit
    if ans.switchInit ≠ .success then (ans.switchInit, s)
    else
      let s := s.use .modulesInitialize
      if ans.modulesInitialize ≠ .success then (ans.modulesInitialize, s)
      else switchSetAttrs ans 0 attr_list s

/-- `sai_create_switch`, with the id it returns. -/
def saiCreateSwitch (attr_list : List SwitchAttr) (ans : SwitchAnswers) (s : SwitchState) :
    Status × Option Oid × SwitchState :=
  if attr_list = [] then (.invalidParameter, none, s)
  else if ans.attrListValidate ≠ .success then (ans.attrListValidate, none, s)
  else
    match switchCreateAttrs ans 0 attr_list s with
    | (some ret_val, s) => (ret_val, none, s)
    | (none, s) =>
        let (ret_val, s) := switchBringUp attr_list ans s
        if ret_val ≠ .success then (ret_val, none, s)
        else (ret_val, some s.info.switch_object_id, s)

/-- `sai_remove_switch` -/
def saiRemoveSwitch (dlclose_ok : Bool) (s : SwitchState) : Status × SwitchState :=
  (.success, npuApiUninitialize dlclose_ok s)

inductive SwitchOp where
  | create (attr_list : List SwitchAttr) (ans : SwitchAnswers)
  | remove (dlclose_ok : Bool)

def switchExec : SwitchOp → SwitchState → SwitchState
  | .create attr_list ans, s => (saiCreateSwitch attr_list ans s).2.2
  | .remove dlclose_ok, s => (saiRemoveSwitch dlclose_ok s).2

/-! ## The law and when it is kept -/

/-- What is asked of a state: the steps so far that need the library, the loads, the flag. -/
structure SwitchLoaded (s : SwitchState) : Prop where
  uses : ∀ u ∈ s.uses, u.2 = true
  opened : s.opened ≤ 1
  flag : s.info.switch_init_flag = true ↔ s.loaded = true

/-- The value of the first `INIT_SWITCH` of a list. -/
def firstInit : List SwitchAttr → Option Bool
  | [] => none
  | .initSwitch booldata :: _ => some booldata
  | _ :: attr_list => firstInit attr_list

def profileGiven : List SwitchAttr → Nat → Nat
  | [], p => p
  | .switchProfileId u32 :: attr_list, _ => profileGiven attr_list u32
  | _ :: attr_list, p => profileGiven attr_list p

/-- The handling of the nodes fails and meets no vendor node before. -/
def stopsBeforeVendor : List InitNode → Bool
  | [] => false
  | .generic ret_code :: nodes => ret_code ≠ .success || stopsBeforeVendor nodes
  | .vendor _ :: _ => false
  | .unknownType :: nodes => stopsBeforeVendor nodes
  | .noType :: _ => true
  | .notPlatformInfo :: _ => true

/-- A creation that starts with nothing loaded does not go past its checks, or asks first for `false`,
or for a load that succeeds, or asks for none and its configuration fails before the NPU is needed. -/
def SwitchOp.Fits : SwitchOp → SwitchState → Prop
  | .remove _, _ => False
  | .create attr_list ans, s =>
      s.loaded = true ∨ attr_list = [] ∨ ans.attrListValidate ≠ .success ∨
      firstInit attr_list = some false ∨
      (firstInit attr_list = some true ∧ (ans.dlopen && ans.dlsym && ans.query) = true) ∨
      (firstInit attr_list = none ∧
        ∀ nodes, ans.config (profileGiven attr_list s.info.profile_id) = some nodes →
          stopsBeforeVendor nodes = true)

/-- The invariant: nothing is open before the first load. -/
structure SwitchInv (s : SwitchState) : Prop extends SwitchLoaded s where
  idle : s.loaded = false → s.opened = 0

namespace SwitchInv

variable (hinv : SwitchInv s)

include hinv

theorem use (hl : s.loaded = true) (u) : SwitchInv (s.use u) where
  uses := by
    intro v hv
    rcases List.mem_append.mp hv with hv | hv
    · exact hinv.uses v hv
    · rw [List.mem_singleton.mp hv]
      exact hl
  opened := hinv.opened
  flag := hinv.flag
  idle := hinv.idle

/-- Other fields of the switch info do not count. -/
theorem withInfo {i} (hi : i.switch_init_flag = s.info.switch_init_flag) :
    SwitchInv { s with info := i } :=
  { hinv with flag := by rw [hi]; exact hinv.flag }

end SwitchInv

/-- A load that succeeds, from nothing loaded, starts the library's one use. -/
theorem SwitchInv.load (hinv : SwitchInv s) (hl : s.loaded = false)
    {ans} (hload : (ans.dlopen && ans.dlsym && ans.query) = true) :
    (switchCreateAttr ans (.initSwitch true) s).1 = .success ∧
    SwitchInv (switchCreateAttr ans (.initSwitch true) s).2 ∧
    (switchCreateAttr ans (.initSwitch true) s).2.loaded = true := by
  have hflag : s.info.switch_init_flag = false := by simpa [hl] using hinv.flag
  have hidle := hinv.idle hl
  obtain ⟨⟨hopen, hsym⟩, hquery⟩ : (ans.dlopen = true ∧ ans.dlsym = true) ∧ ans.query = true := by
    simpa using hload
  simp only [switchCreateAttr, switchApiInitialize, npuApiInitialize, hflag, hopen, hsym, hquery]
  exact ⟨rfl, ⟨⟨hinv.uses, by simp [hidle], by simp⟩, by simp⟩, rfl⟩

/-! ## One call -/

/-- Once the library is loaded the first loop leaves it so. -/
theorem switchCreateAttrs_loaded (hinv : SwitchInv s) (hl : s.loaded = true) :
    SwitchInv (switchCreateAttrs ans attr_idx attr_list s).2 ∧
    (switchCreateAttrs ans attr_idx attr_list s).2.loaded = true := by
  induction attr_list generalizing s attr_idx with
  | nil => exact ⟨hinv, hl⟩
  | cons attr attr_list ih =>
    cases attr with
    | initSwitch b =>
      have hflag := hinv.flag.mpr hl
      simp only [switchCreateAttrs, switchCreateAttr, hflag]
      exact ih (attr_idx + 1) hinv hl
    | switchProfileId n => exact ih (attr_idx + 1) (hinv.withInfo rfl) hl
    | switchHardwareInfo l => exact ih (attr_idx + 1) (hinv.withInfo rfl) hl
    | firmwarePathName l => exact ih (attr_idx + 1) (hinv.withInfo rfl) hl
    | other id value => exact ih (attr_idx + 1) hinv hl

/-- The first loop with nothing loaded: if it runs to the end the library is loaded, or the list does
not ask for it. -/
theorem switchCreateAttrs_inv (hinv : SwitchInv s) (hl : s.loaded = false)
    (hload : firstInit attr_list = some true → (ans.dlopen && ans.dlsym && ans.query) = true) :
    SwitchInv (switchCreateAttrs ans attr_idx attr_list s).2 ∧
    ((switchCreateAttrs ans attr_idx attr_list s).1 = none →
      (switchCreateAttrs ans attr_idx attr_list s).2.loaded = true ∨
      (firstInit attr_list = none ∧
        (switchCreateAttrs ans attr_idx attr_list s).2.info.profile_id =
          profileGiven attr_list s.info.profile_id)) := by
  induction attr_list generalizing s attr_idx with
  | nil => exact ⟨hinv, fun _ => .inr ⟨rfl, rfl⟩⟩
  | cons attr attr_list ih =>
    cases attr with
    | initSwitch b =>
      cases b with
      | true =>
        obtain ⟨hok, hinvt, hlt⟩ := hinv.load hl (hload rfl)
        obtain ⟨hrest, hlrest⟩ := switchCreateAttrs_loaded _ _ hinvt hlt
        simp only [switchCreateAttrs]
        rw [if_neg fun hno => hno hok]
        exact ⟨hrest, fun _ => .inl hlrest⟩
      | false =>
        have hflag : s.info.switch_init_flag = false := by simpa [hl] using hinv.flag
        simp only [switchCreateAttrs, switchCreateAttr, switchApiInitialize, hflag]
        exact ⟨hinv.withInfo hflag.symm, nofun⟩
    | switchProfileId n => exact ih (attr_idx + 1) (hinv.withInfo rfl) hl hload
    | switchHardwareInfo l => exact ih (attr_idx + 1) (hinv.withInfo rfl) hl hload
    | firmwarePathName l => exact ih (attr_idx + 1) (hinv.withInfo rfl) hl hload
    | other id value => exact ih (attr_idx + 1) hinv hl hload

theorem switchInitFileHandler_loaded (nodes) (hinv : SwitchInv s) (hl : s.loaded = true) :
    SwitchInv (switchInitFileHandler nodes s).2 ∧
    (switchInitFileHandler nodes s).2.loaded = true := by
  induction nodes generalizing s with
  | nil => exact ⟨hinv, hl⟩
  | cons node nodes ih =>
    cases node with
    | generic rc =>
      simp only [switchInitFileHandler]
      split
      · exact ⟨hinv, hl⟩
      · exact ih hinv hl
    | vendor rc =>
      simp only [switchInitFileHandler]
      split
      · exact ⟨hinv.use hl _, hl⟩
      · exact ih (hinv.use hl _) hl
    | unknownType => exact ih hinv hl
    | noType => exact ⟨hinv, hl⟩
    | notPlatformInfo => exact ⟨hinv, hl⟩

theorem switchInitFileHandler_stops {nodes} (hstop : stopsBeforeVendor nodes = true) :
    (switchInitFileHandler nodes s).1 ≠ .success ∧ (switchInitFileHandler nodes s).2 = s := by
  induction nodes with
  | nil => simp [stopsBeforeVendor] at hstop
  | cons node nodes ih =>
    cases node with
    | generic rc =>
      by_cases hrc : rc = .success
      · simpa [switchInitFileHandler, hrc] using ih (by simpa [stopsBeforeVendor, hrc] using hstop)
      · simp [switchInitFileHandler, hrc]
    | vendor rc => simp [stopsBeforeVendor] at hstop
    | unknownType => exact ih hstop
    | noType => simp [switchInitFileHandler]
    | notPlatformInfo => simp [switchInitFileHandler]

theorem switchSetAttrs_inv (hinv : SwitchInv s) (hl : s.loaded = true) :
    SwitchInv (switchSetAttrs ans attr_idx attr_list s).2 := by
  induction attr_list generalizing s attr_idx with
  | nil => exact hinv
  | cons attr attr_list ih =>
    cases attr with
    | other id value =>
      simp only [switchSetAttrs]
      split
      · exact hinv.use hl _
      · exact ih _ (hinv.use hl _) hl
    | _ => exact ih _ hinv hl

theorem switchBringUp_loaded {ans} (hinv : SwitchInv s) (hl : s.loaded = true) :
    SwitchInv (switchBringUp attr_list ans s).2 := by
  have hconfig : SwitchInv (switchInitConfig ans s).2 ∧ (switchInitConfig ans s).2.loaded = true := by
    simp only [switchInitConfig]
    split
    · exact ⟨hinv, hl⟩
    · exact switchInitFileHandler_loaded _ hinv hl
  obtain ⟨hinvc, hlc⟩ := hconfig
  have hinit := hinvc.use hlc .switchInit
  have hmodules := hinit.use hlc .modulesInitialize
  simp only [switchBringUp]
  split
  · exact hinvc
  split
  · exact hinit
  split
  · exact hmodules
  · exact switchSetAttrs_inv _ _ hmodules hlc

/-- With nothing loaded, a configuration that fails before the NPU is needed ends the creation. -/
theorem switchBringUp_stops {ans}
    (hstop : ∀ nodes, ans.config s.info.profile_id = some nodes → stopsBeforeVendor nodes = true) :
    (switchBringUp attr_list ans s).2 = s := by
  have hconfig : (switchInitConfig ans s).1 ≠ .success ∧ (switchInitConfig ans s).2 = s := by
    simp only [switchInitConfig]
    split
    · exact ⟨by simp, rfl⟩
    · exact switchInitFileHandler_stops (hstop _ ‹_›)
  simp [switchBringUp, hconfig.1, hconfig.2]

theorem switchExec_inv (op) (s) (hinv : SwitchInv s) (hfit : op.Fits s) :
    SwitchInv (switchExec op s) := by
  cases op with
  | remove dlclose_ok => exact hfit.elim
  | create attr_list ans =>
    simp only [switchExec, saiCreateSwitch]
    split
    · exact hinv
    split
    · exact hinv
    rename_i hne hvalid
    have hattrs : SwitchInv (switchCreateAttrs ans 0 attr_list s).2 ∧
        ((switchCreateAttrs ans 0 attr_list s).1 = none →
          SwitchInv (switchBringUp attr_list ans (switchCreateAttrs ans 0 attr_list s).2).2) := by
      by_cases hl : s.loaded = true
      · obtain ⟨h, hl'⟩ := @switchCreateAttrs_loaded ans attr_list 0 s hinv hl
        exact ⟨h, fun _ => switchBringUp_loaded _ h hl'⟩
      obtain ⟨h, hend⟩ := @switchCreateAttrs_inv ans attr_list 0 s hinv (by simpa using hl)
        (by simp only [SwitchOp.Fits] at hfit; grind)
      refine ⟨h, fun hnone => ?_⟩
      rcases hend hnone with hl' | ⟨hinit, hprofile⟩
      · exact switchBringUp_loaded _ h hl'
      rw [switchBringUp_stops]
      · exact h
      rw [hprofile]
      simp only [SwitchOp.Fits] at hfit
      grind
    split
    next rc t heq =>
      rw [heq] at hattrs
      exact hattrs.1
    rename_i t heq
    rw [heq] at hattrs
    split <;> exact hattrs.2 rfl

/-- In a run whose calls fit, the steps that need the library are reached only while it is loaded, it
is never loaded twice, and the flag says whether it is. -/
theorem switchLoaded_of_run (hrun : Run switchExec SwitchOp.Fits {} s) : SwitchLoaded s := by
  have hstart : SwitchInv {} := ⟨⟨by simp, by simp, by simp⟩, by simp⟩
  exact (hrun.induct switchExec_inv hstart).toSwitchLoaded

theorem switchLoaded_of_run_create :
    SwitchLoaded (switchExec (.create [.initSwitch true, .switchProfileId 7, .other 1 2] {}) {}) :=
  switchLoaded_of_run (by
    exact .one _ (by simp [SwitchOp.Fits, firstInit]))

/-- Creation then removal leaves the flag set with nothing loaded. -/
theorem not_switchLoaded_remove :
    ¬ ∀ s, Run switchExec (fun _ _ => True) {} s → SwitchLoaded s := by
  intro h
  have hrun : Run switchExec (fun _ _ => True) {}
      (switchExec (.remove true) (switchExec (.create [.initSwitch true] {}) {})) := by
    exact .snoc _ (.one _ trivial) trivial
  exact absurd (h _ hrun).flag (by decide)

end OpxSai
