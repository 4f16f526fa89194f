import NetDrv.Coalesce.Accounting
import NetDrv.Coalesce.Exclusion
import NetDrv.Coalesce.Groups
import NetDrv.DataFlow.DriverUnload
import NetDrv.DataFlow.Flow
import NetDrv.DataFlow.Ownership
import NetDrv.DataFlow.Release
import NetDrv.DataFlow.TrafficPass
import NetDrv.DataFlow.TrafficRelease
import NetDrv.DataFlow.TrafficTests
import NetDrv.Ethtool.TxCoalesce
import NetDrv.Ethtool.TxRestore
import NetDrv.ExactDelay.Payload
import NetDrv.ExactDelay.Receiver
import NetDrv.ExactDelay.Sender
import NetDrv.Filter.RxMode
import NetDrv.Filter.VlanFilter
import NetDrv.Lib.ByteOrder
import NetDrv.Lib.Crc
import NetDrv.Lib.Firsts
import NetDrv.Lib.Ledger
import NetDrv.Lib.Loop
import NetDrv.Lib.Mediant
import NetDrv.Lib.Probe
import NetDrv.Lib.Script
import NetDrv.Lib.Serial
import NetDrv.Lib.Slots
import NetDrv.Lib.Specific
import NetDrv.Lib.Staged
import NetDrv.Lib.TopTwo
import NetDrv.Mtu.Fragments
import NetDrv.Mtu.Rounds
import NetDrv.Mtu.Tcp
import NetDrv.Mtu.Udp
import NetDrv.Offload.ReceiveOffload
import NetDrv.Perf.FrameLoss
import NetDrv.Perf.Instances
import NetDrv.Phy.Bench
import NetDrv.Phy.BenchChecks
import NetDrv.Phy.BenchOracle
import NetDrv.Phy.BenchSafety
import NetDrv.Phy.BenchTests
import NetDrv.Phy.CommonModes
import NetDrv.Phy.Config
import NetDrv.Phy.Effects
import NetDrv.Phy.FixedModes
import NetDrv.Phy.Link
import NetDrv.Phy.LocalSequence
import NetDrv.Phy.Mode
import NetDrv.Phy.ModeName
import NetDrv.Phy.Ops
import NetDrv.Phy.Restore
import NetDrv.Ptp.AdjFrequency
import NetDrv.Ptp.AdjSetoffset
import NetDrv.Ptp.Clock
import NetDrv.Ptp.Sfptpd
import NetDrv.Ptp.SfptpdSync
import NetDrv.Rss.ChangeChannels
import NetDrv.Rss.CombinedChoice
import NetDrv.Rss.Context
import NetDrv.Rss.Detection
import NetDrv.Rss.HashKeyGet
import NetDrv.Rss.HashKeySet
import NetDrv.Rss.PortSearch
import NetDrv.Rss.TableHazard
import NetDrv.Rss.Toeplitz
import NetDrv.RxFcs.Detection
import NetDrv.RxFcs.Frames
import NetDrv.RxRules.FullPart
import NetDrv.RxRules.Ledger
import NetDrv.RxRules.Steering
import NetDrv.RxRules.TooMany
import NetDrv.Te
import NetDrv.Transfer.DataCheck
import NetDrv.Transfer.SendRecv
import NetDrv.Transfer.Termination
import NetDrv.Tso.Capture
import NetDrv.Tso.Split
import NetDrv.Tso.Verdict
import NetDrv.Xdp.Create
import NetDrv.Xdp.Destroy
import NetDrv.Xdp.Echo
import NetDrv.Xdp.Lifecycle
import NetDrv.Xdp.Noticed
import NetDrv.Xdp.Run
import NetDrv.Xdp.Sock
import NetDrv.Xdp.Sockets
