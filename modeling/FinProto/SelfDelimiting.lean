import FinProto.Rc.Binary
import FinProto.Sse.Binary
import FinProto.Szse.Binary
import FinProto.Bjse.Binary
import FinProto.Root.Packet

/-! Frames carry their own end: what a decoder returns depends on the bytes it
consumed alone, and no strict prefix of them is a frame. -/
namespace FinProto

open Wire

/-- Once `p` has accepted some bytes, it accepts them in front of anything and
rejects every strict prefix of them as too short. -/
def SelfDelimiting (p : Decoder α) : Prop :=
  ∀ (buf : ByteBuf) (a : α), (p.run buf).value = .ok a →
    ∃ consumed rest, unread buf = consumed ++ rest ∧ unread (p.run buf).state = rest ∧
      (∀ (other : ByteBuf) (suffix : Bytes), unread other = consumed ++ suffix →
        (p.run other).value = .ok a ∧ unread (p.run other).state = suffix) ∧
      (∀ (cut : ByteBuf) (missing : Bytes), missing ≠ [] → unread cut ++ missing = consumed →
        ∃ what, (p.run cut).value = .error (.outOfRange what))

theorem Decoder.selfDelimiting (p : Decoder α) : SelfDelimiting p := by
  intro buf a success
  obtain ⟨consumed, rest, split, reads, state⟩ := p.consumed success
  refine ⟨consumed, rest, split, ?_, ?_, ?_⟩
  · rw [state, Cursor.unread_advance, split, List.drop_left]
  · intro other suffix same
    obtain ⟨value, state⟩ := reads.accepts other suffix same
    exact ⟨value, by rw [state, Cursor.unread_advance, same, List.drop_left]⟩
  · intro cut missing nonempty same
    exact ⟨_, reads.truncated cut missing nonempty same⟩

/-- Every frame decoder is self-delimiting. -/
theorem frames_selfDelimiting :
    SelfDelimiting Rc.RcBinary.decode ∧ SelfDelimiting Sse.SseBinary.decode ∧
    SelfDelimiting Szse.SzseBinary.decode ∧ SelfDelimiting (decode (M := Bjse.BjseBinary)) ∧
    SelfDelimiting Root.RootPacket.decode :=
  ⟨Decoder.selfDelimiting _, Decoder.selfDelimiting _, Decoder.selfDelimiting _,
    Decoder.selfDelimiting _, Decoder.selfDelimiting _⟩

theorem reportSynchronization_selfDelimiting :
    let b : Bytes := [5, 0, 0, 0, 9, 9, 0, 0, 2, 0, 0, 0, 1, 0, 0, 0, 7, 0, 0, 0, 0, 0, 0, 0,
      2, 0, 0, 0, 8, 0, 0, 0, 0, 0, 0, 0, 3, 0, 0, 0, 255]
    let reports : Szse.ReportSynchronization := { partitionReport := [⟨1, 7⟩, ⟨2, 8⟩] }
    let m : Szse.SzseBinary := ⟨5, 2313, ⟨.reportSynchronization, reports⟩, 3⟩
    ∃ consumed rest, unread (ByteBuf.holding b) = consumed ++ rest ∧
      unread (Szse.SzseBinary.decode.run (.holding b)).state = rest ∧
      (∀ (other : ByteBuf) (suffix : Bytes), unread other = consumed ++ suffix →
        (Szse.SzseBinary.decode.run other).value = .ok m ∧
          unread (Szse.SzseBinary.decode.run other).state = suffix) ∧
      (∀ (cut : ByteBuf) (missing : Bytes), missing ≠ [] → unread cut ++ missing = consumed →
        ∃ what, (Szse.SzseBinary.decode.run cut).value = .error (.outOfRange what)) := by
  have accepted : (Szse.SzseBinary.decode.run (.holding
      [5, 0, 0, 0, 9, 9, 0, 0, 2, 0, 0, 0, 1, 0, 0, 0, 7, 0, 0, 0, 0, 0, 0, 0,
        2, 0, 0, 0, 8, 0, 0, 0, 0, 0, 0, 0, 3, 0, 0, 0, 255])).value =
      .ok ⟨5, 2313, ⟨.reportSynchronization, { partitionReport := [⟨1, 7⟩, ⟨2, 8⟩] }⟩, 3⟩ := by
    rfl
  intro b reports m
  exact frames_selfDelimiting.2.2.1 (.holding b) m accepted

end FinProto
