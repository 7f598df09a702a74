import NearField.Proofs.Arygon.Scan
import NearField.Proofs.Pcsc.Scan

/-!
# What a scan reports is opened again

A scan builds a connection string from the name under which the system knows a reader, and opening
reads the name out of the string.  The string is cut at every colon and ends at the first empty
part, and names are written into it as they are.  So the reader that was found is the one that is
opened exactly if its name has no colon in it and is not empty (`reports_opened_iff`).
-/

namespace NearField

open ConnString

variable {ω δ κ π : Type}

/-- What a scan reports. -/
def Driver.reports (d : Driver ω δ) (max : Nat) (w : ω) : List ConnString :=
  match (d.scan max w).result with
  | .ok found => found

theorem Driver.yields_reports (d : Driver ω δ) (max : Nat) (w : ω) :
    (d.scan max).Yields w (d.reports max w) (d.scan max w).state := by
  rw [reports]
  split
  exact ⟨‹_›, rfl⟩

/-- **A reported reader is opened again exactly if its name survives in the string.**  The card
service is asked to connect to the name that was found, and to no other, exactly if the name has
no colon in it; the port that was found is claimed and set to the usual speed exactly if its name
is not empty and has no colon in it. -/
theorem reports_opened_iff [SerialPort (ω × π)] :
    (∀ (service : Pcsc.CardService ω κ) (max : Nat) (w : ω),
      ∀ c ∈ (Pcsc.driver service).reports max w,
        ∃ names name, (service.readers w).result = .ok names ∧ name ∈ names ∧
          c.text = "pcsc" ++ ":" ++ name ∧
          ∀ w', ((Pcsc.driver service.noted).claim c ⟨w', []⟩).state.notes = [name] ↔
            ':' ∉ name.toList) ∧
      ∀ (provider : PortProvider ω π) (max : Nat) (w : ω),
        ∀ c ∈ (Arygon.driver provider).reports max w,
          ∃ port ∈ provider.ports w, c.text = "arygon" ++ ":" ++ port ++ ":" ++ "9600" ∧
            ∀ w', Arygon.Opened port 9600
                ((Arygon.driver provider.noted).claim c ⟨w', []⟩).result
                ((Arygon.driver provider.noted).claim c ⟨w', []⟩).state.notes ↔
              port ≠ "" ∧ ':' ∉ port.toList := by
  refine ⟨fun service max w c hc => ?_, fun provider max w c hc => ?_⟩
  · obtain ⟨names, name, hnames, hmem, hsupported, htext⟩ :=
      Pcsc.mem_scan (Driver.yields_reports _ max w) hc
    refine ⟨names, name, hnames, hmem, htext, fun w' => ?_⟩
    have hnotes : ((Pcsc.driver service.noted).claim c ⟨w', []⟩).state.notes = [front name] :=
      Pcsc.notes_claim service hsupported htext ⟨w', []⟩
    rw [hnotes, List.singleton_inj, front_eq_self_iff]
  · obtain ⟨port, hport, htext⟩ := Arygon.mem_scan (Driver.yields_reports _ max w) hc
    exact ⟨port, hport, htext, fun w' => Arygon.opened_claim_iff provider htext w'⟩

/-- A reader is not always the one that is opened by its own string: of the name
`ACS ACR122U: 00` only the part in front of the colon is asked for. -/
theorem reports_not_opened :
    ¬ ∀ (service : Pcsc.CardService Unit Unit) (max : Nat),
      ∀ c ∈ (Pcsc.driver service).reports max (), ∀ name, c.text = "pcsc" ++ ":" ++ name →
        ((Pcsc.driver service.noted).claim c ⟨(), []⟩).state.notes = [name] := by
  intro h
  let service : Pcsc.CardService Unit Unit :=
    { readers := pure ["ACS ACR122U: 00"], connect := fun _ _ _ => pure () }
  let c : ConnString := ⟨"pcsc:ACS ACR122U: 00", by decide, by decide⟩
  have hreported : (Pcsc.driver service).reports 1 () = [c] := by decide +kernel
  have hopened := h service 1 c (by rw [hreported]; exact List.mem_singleton_self c)
    "ACS ACR122U: 00" (by decide)
  have hasked : ((Pcsc.driver service.noted).claim c ⟨(), []⟩).state.notes = ["ACS ACR122U"] := by
    decide +kernel
  exact absurd (hasked.symm.trans hopened) (by decide)

end NearField
