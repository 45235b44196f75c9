import IdentityService.Proofs.Provider.SlotCalls
import IdentityService.Proofs.Text.LowerCase
import IdentityService.Provider.Account

/-!
# Project Identifiers and Addresses

An initialization trims the identifier of the project, checks what is left, and records it in the
handle.  The client is made from the settings, which hold the identifier as it was configured.  So
handle and client belong to one project exactly when the configured identifier has no blanks around
it; every blank reaches the address of the client and none reaches the handle.

The client library is a parameter: it takes an address with a key, and answers with a client or a
fault, about which nothing is assumed.

## Main definitions

- `AccountAccess.address`: the address of a project.

## Main statements

- `ProviderSlot.fill_eq_ok_iff`: which initializations succeed, and what they leave.
- `ProviderSlot.recorded_and_connected`: the identifier in the handle against the address of the
  client, for every configured identifier.
-/

namespace IdentityService

/-! ## §1 Addresses -/

namespace AccountAccess

/-- The address of a project. -/
def address (projectId : String) : String := "https://" ++ projectId ++ ".supabase.co"

/-- Two projects have two addresses. -/
theorem address_inj {projectId other : String} :
    address projectId = address other ↔ projectId = other := by
  refine ⟨fun h => ?_, congrArg address⟩
  have hlists := congrArg String.toList h
  rw [address, address, String.toList_append, String.toList_append, String.toList_append,
    String.toList_append] at hlists
  exact String.toList_inj.mp (List.append_cancel_left (List.append_cancel_right hlists))

theorem connect_eq_ok_iff {files : Folder} {settings : ProviderSettings} {a : AccountAccess} :
    connect files settings = .ok a ↔
      ∃ key, Credential.read files settings.credentialPath = .ok key ∧
        a = ⟨address settings.projectId, key⟩ := by
  unfold connect
  rw [bind_eq_ok_iff]
  exact exists_congr fun key => and_congr_right fun _ => by rw [Except.ok.injEq, eq_comm, address]

end AccountAccess

/-! ## §2 Blanks around an identifier -/

namespace Text

/-- What stands around a text when it is put between blanks. -/
theorem eq_between_iff {s : String} {before after : List Char} :
    String.ofList before ++ s ++ String.ofList after = s ↔ before = [] ∧ after = [] := by
  rw [← String.toList_inj, String.toList_append, String.toList_append, String.toList_ofList,
    String.toList_ofList]
  constructor
  · intro h
    have hlength := congrArg List.length h
    rw [List.length_append, List.length_append] at hlength
    exact ⟨List.length_eq_zero_iff.mp (by omega), List.length_eq_zero_iff.mp (by omega)⟩
  · rintro ⟨rfl, rfl⟩
    rw [List.nil_append, List.append_nil]

/-- A text is what trimming leaves of it, between blanks. -/
theorem exists_strip_between (s : String) :
    ∃ before after, (∀ c ∈ before, isBlank c = true) ∧ (∀ c ∈ after, isBlank c = true) ∧
      s = String.ofList before ++ strip s ++ String.ofList after := by
  obtain ⟨before, after, hbefore, hafter, hs⟩ := exists_blanks_around s.toList
  refine ⟨before, after, hbefore, hafter, ?_⟩
  rw [strip, ← String.ofList_append, ← String.ofList_append, ← hs, String.ofList_toList]

end Text

/-! ## §3 Initializations -/

namespace ProviderSlot

variable {κ : Type} {slot : ProviderSlot κ} {settings : ProviderSettings}
  {connect : ProviderSettings → Outcome κ} {h : ProviderHandle κ}

/-- **Success.** An initialization succeeds when the identifier is acceptable, the slot empty and
the client made; the new handle is then in the slot. -/
theorem fill_eq_ok_iff {left : ProviderSlot κ} :
    slot.fill settings connect = (.ok h, left) ↔
      slot = none ∧ ¬ ProjectId.IsRefused settings.projectId ∧
        (∃ client, connect settings = .ok client ∧
          h = ⟨Text.strip settings.projectId, client, settings.timeout⟩) ∧
        left = some h := by
  by_cases hrefused : ProjectId.IsRefused settings.projectId
  · obtain ⟨message, hcheck⟩ := ProjectId.check_of_isRefused hrefused
    rw [fill_of_refused hcheck]
    simp [hrefused]
  have hcheck := ProjectId.check_of_not_isRefused hrefused
  cases hslot : slot with
  | some other =>
    rw [fill_of_filled hcheck rfl]
    simp
  | none =>
    cases hconnect : connect settings with
    | error f =>
      rw [fill_of_error hcheck rfl hconnect]
      simp
    | ok client =>
      rw [fill_of_ok hcheck rfl hconnect, Prod.mk.injEq, Except.ok.injEq]
      constructor
      · rintro ⟨rfl, rfl⟩
        exact ⟨rfl, hrefused, ⟨client, rfl, rfl⟩, rfl⟩
      · rintro ⟨-, -, ⟨_, hclient, rfl⟩, rfl⟩
        obtain rfl := Except.ok.inj hclient
        exact ⟨rfl, rfl⟩

/-- Success with a client library: the library is asked for the address of the identifier as it was
configured. -/
theorem fill_connected_eq_ok_iff {files : Folder} {create : AccountAccess → Outcome κ}
    {left : ProviderSlot κ} :
    slot.fill settings (fun settings => AccountAccess.connect files settings >>= create) =
        (.ok h, left) ↔
      slot = none ∧ ¬ ProjectId.IsRefused settings.projectId ∧
        (∃ key client, Credential.read files settings.credentialPath = .ok key ∧
          create ⟨AccountAccess.address settings.projectId, key⟩ = .ok client ∧
          h = ⟨Text.strip settings.projectId, client, settings.timeout⟩) ∧
        left = some h := by
  rw [fill_eq_ok_iff]
  refine and_congr_right fun _ => and_congr_right fun _ => and_congr_left fun _ => ?_
  constructor
  · rintro ⟨client, hconnect, rfl⟩
    obtain ⟨a, ha, hcreate⟩ := bind_eq_ok_iff.mp hconnect
    obtain ⟨key, hkey, rfl⟩ := AccountAccess.connect_eq_ok_iff.mp ha
    exact ⟨key, client, hkey, hcreate, rfl⟩
  · rintro ⟨key, client, hkey, hcreate, rfl⟩
    have ha := AccountAccess.connect_eq_ok_iff.mpr ⟨key, hkey, rfl⟩
    exact ⟨client, bind_eq_ok_iff.mpr ⟨_, ha, hcreate⟩, rfl⟩

/-- **Two identifiers.** With any key file and any client library, an initialization succeeds
exactly when the slot is empty, the identifier acceptable, the key readable and the library content
with the address of the identifier as it was configured.  The handle records what stands between
the blanks around that identifier; the address is the one of the recorded identifier exactly when
there are no such blanks. -/
theorem recorded_and_connected (files : Folder) (create : AccountAccess → Outcome κ)
    (slot : ProviderSlot κ) (settings : ProviderSettings) :
    let attempt :=
      slot.fill settings (fun settings => AccountAccess.connect files settings >>= create)
    (∀ h left, attempt = (.ok h, left) ↔
      slot = none ∧ ¬ ProjectId.IsRefused settings.projectId ∧
        (∃ key client, Credential.read files settings.credentialPath = .ok key ∧
          create ⟨AccountAccess.address settings.projectId, key⟩ = .ok client ∧
          h = ⟨Text.strip settings.projectId, client, settings.timeout⟩) ∧
        left = some h) ∧
    ∀ h left, attempt = (.ok h, left) →
      ∃ before after, (∀ c ∈ before, Text.isBlank c = true) ∧
        (∀ c ∈ after, Text.isBlank c = true) ∧
        settings.projectId = String.ofList before ++ h.projectId ++ String.ofList after ∧
        (AccountAccess.address settings.projectId = AccountAccess.address h.projectId ↔
          before = [] ∧ after = []) := by
  refine ⟨fun h left => fill_connected_eq_ok_iff, fun h left hfilled => ?_⟩
  obtain ⟨-, -, ⟨_, _, -, -, rfl⟩, -⟩ := fill_connected_eq_ok_iff.mp hfilled
  obtain ⟨before, after, hbefore, hafter, hid⟩ := Text.exists_strip_between settings.projectId
  refine ⟨before, after, hbefore, hafter, hid, ?_⟩
  rw [AccountAccess.address_inj]
  nth_rewrite 1 [hid]
  exact Text.eq_between_iff

/-- A blank on each side is enough: the handle names the project, and the client is made for a host
that does not exist. -/
theorem connected_with_blanks :
    let files : Folder := [("key", .file "secret-key")]
    let settings : ProviderSettings := ⟨"key", " eros-prod ", ProviderSettings.usualTimeout⟩
    let h : ProviderHandle AccountAccess :=
      ⟨"eros-prod", ⟨"https:// eros-prod .supabase.co", "secret-key"⟩, settings.timeout⟩
    ProviderSlot.empty.fill settings (AccountAccess.connect files) = (.ok h, some h) ∧
      h.client.url ≠ AccountAccess.address h.projectId := by
  intro files settings h
  have haccepted : ¬ ProjectId.IsRefused " eros-prod " :=
    not_or.mpr ⟨by decide +kernel, by decide +kernel⟩
  have hkey : Credential.read files "key" = .ok "secret-key" := by decide +kernel
  have hclient : AccountAccess.connect files settings = .ok h.client :=
    AccountAccess.connect_eq_ok_iff.mpr ⟨"secret-key", hkey, rfl⟩
  have hrecorded : Text.strip " eros-prod " = "eros-prod" := by decide +kernel
  have hhandle : h = ⟨Text.strip " eros-prod ", h.client, settings.timeout⟩ := by rw [hrecorded]
  refine ⟨fill_eq_ok_iff.mpr ⟨rfl, haccepted, ⟨h.client, hclient, hhandle⟩, rfl⟩, ?_⟩
  decide

end ProviderSlot

end IdentityService
