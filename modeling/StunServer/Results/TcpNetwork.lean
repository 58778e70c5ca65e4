import StunServer.Proofs.TcpNetwork

/-! The client over TCP and the server, end to end. -/

namespace StunServer

open CStunClientLogic CConnectionPool

/-- However the bytes are cut on their way to the server and back: where no call fails and both
ends keep at it, the client prints the right results at the latest in its fourth pass. -/
theorem tcp_client_classifies (site : Site) (hplain : site.config.fFilteringTest = false)
    (socketconfig : ClientSocketConfig) (exchanges : List TcpExchange)
    (hexchanges : ∀ exchange ∈ exchanges, exchange.Succeeds site) (henough : 3 < exchanges.length) :
    ∃ results, (tcpClientLoop site.config socketconfig
      (site.tcpTurns exchanges (.start site.start.client socketconfig))).ending =
        some (.prints results) ∧ site.Classified results := by
  have htests : (testsOf (configure site.config)).length ≤ 3 := by
    have hno : (configure site.config).fFilteringTest = false := hplain
    rw [testsOf, hno, if_neg Bool.false_ne_true]
    split_ifs <;> decide
  have hinit : IsInitialized site.config site.start.client := site.isInitialized_start
  rw [tcpClientLoop, hinit]
  exact (site.goes_start socketconfig).loop hplain hexchanges (by omega)

/-- A client that is started for TCP in full mode, where the NAT depends on the address. -/
def sampleTcpSite : Site :=
  { sampleSite with
    config := ⟨sampleGrid.endpoint .rolePP, false, 0, 1, true, false⟩
    addrServer := rfl }

/-- Everything goes a byte at a time. -/
def sampleExchange (n : UInt8) : TcpExchange where
  entropy := ⟨List.Vector.replicate 8 n, List.Vector.replicate 16 0⟩
  timeCurrentMilliseconds := 0
  sends := List.replicate 28 1
  recvs := List.replicate 800 1
  conn := { StunConnection.create with pNext := none }
  sock := 7
  calls := List.replicate 1600 ⟨[.count 1], true, true, true⟩

theorem sampleExchange_succeeds (n : UInt8) : (sampleExchange n).Succeeds sampleTcpSite where
  pooled := .created none
  socket := show (7 : Int) ≠ -1 by decide
  smooth := by
    intro call hcall
    rw [List.eq_of_mem_replicate hcall]
    exact ⟨by simp, rfl, rfl, rfl⟩
  events := by
    rw [sampleExchange, List.countP_replicate, if_pos (decide_eq_true ⟨1, [], rfl⟩)]
    exact le_rfl
  recvs := (List.length_replicate ..).ge

theorem tcp_client_classifies_bytewise : ∃ results, (tcpClientLoop sampleTcpSite.config
    sampleSocketConfig (sampleTcpSite.tcpTurns ([1, 2, 3, 4].map sampleExchange)
      (.start sampleTcpSite.start.client sampleSocketConfig))).ending = some (.prints results) ∧
        sampleTcpSite.Classified results := by
  refine tcp_client_classifies sampleTcpSite rfl sampleSocketConfig _ ?_ (by decide)
  intro exchange hexchange
  obtain ⟨n, -, rfl⟩ := List.mem_map.mp hexchange
  exact sampleExchange_succeeds n

end StunServer
