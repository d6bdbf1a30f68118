import DeXFG.Adaptor.AdaptorSignature
import DeXFG.Adaptor.Completion
import DeXFG.Adaptor.KeyAggregation
import DeXFG.Adaptor.XOnly
import DeXFG.Evm.AmountStrings
import DeXFG.Evm.EventSearch
import DeXFG.Evm.EventWindows
import DeXFG.Evm.LegacyAgreement
import DeXFG.Evm.NonceLock
import DeXFG.Evm.PaymentLifecycle
import DeXFG.Evm.Tron
import DeXFG.Evm.TronWithdraw
import DeXFG.HdWallet.Account
import DeXFG.HdWallet.AccountActivation
import DeXFG.HdWallet.Activation
import DeXFG.HdWallet.EnabledAddress
import DeXFG.HdWallet.GapLimit
import DeXFG.HdWallet.Types
import DeXFG.HdWallet.Wallet
import DeXFG.LegacySwap.EventSourcing
import DeXFG.LegacySwap.WatcherLock
import DeXFG.Library.Base64
import DeXFG.Library.FiniteMap
import DeXFG.Library.GapScan
import DeXFG.Library.KeyedWrites
import DeXFG.Library.LinkedMap
import DeXFG.Library.Loops
import DeXFG.Library.Ownership
import DeXFG.Library.Paging
import DeXFG.Library.Protobuf
import DeXFG.Library.Radix
import DeXFG.Library.Runs
import DeXFG.Library.Serde
import DeXFG.Library.SetMap
import DeXFG.Library.ShiftRegister
import DeXFG.Library.ShortestPrefix
import DeXFG.Library.SignificantDigits
import DeXFG.Library.Stateful
import DeXFG.Library.Truncation
import DeXFG.Library.Utf8
import DeXFG.Ordermatch.Agreement
import DeXFG.Ordermatch.BatchOrder
import DeXFG.Ordermatch.BestOrders
import DeXFG.Ordermatch.Cancel
import DeXFG.Ordermatch.CancelAtomic
import DeXFG.Ordermatch.Coherence
import DeXFG.Ordermatch.Convergence
import DeXFG.Ordermatch.Conversion
import DeXFG.Ordermatch.Draining
import DeXFG.Ordermatch.Handlers
import DeXFG.Ordermatch.History
import DeXFG.Ordermatch.Index
import DeXFG.Ordermatch.Ingest
import DeXFG.Ordermatch.Isolation
import DeXFG.Ordermatch.MakerOrdersContext
import DeXFG.Ordermatch.Matching
import DeXFG.Ordermatch.NewProtocol
import DeXFG.Ordermatch.Orderbook
import DeXFG.Ordermatch.Orders
import DeXFG.Ordermatch.OwnOrder
import DeXFG.Ordermatch.Selection
import DeXFG.Ordermatch.Settings
import DeXFG.Ordermatch.SingleSwap
import DeXFG.Ordermatch.SwapStart
import DeXFG.Ordermatch.Sync
import DeXFG.Ordermatch.TrieStore
import DeXFG.Ordermatch.Types
import DeXFG.Ordermatch.Validity
import DeXFG.Ordermatch.Wire
import DeXFG.Spv.BitcoinRule
import DeXFG.Spv.Compact
import DeXFG.Spv.HeaderChain
import DeXFG.Spv.HeaderSync
import DeXFG.Spv.HonestServers
import DeXFG.Spv.ItemLists
import DeXFG.Spv.LinkedHeaders
import DeXFG.Spv.MerkleProof
import DeXFG.Spv.Reorganization
import DeXFG.Spv.Work
import DeXFG.Streaming.Interleavings
import DeXFG.Streaming.Manager
import DeXFG.SwapLock.Exclusivity
import DeXFG.SwapLock.FileLock
import DeXFG.SwapV2.CommitWindow
import DeXFG.SwapV2.LockedAmounts
import DeXFG.SwapV2.NoAbandonedFunds
import DeXFG.SwapV2.RoundTrip
import DeXFG.SwapV2.SecretExposure
import DeXFG.SwapV2.SecretWindow
import DeXFG.SwapV2.Timelocks
import DeXFG.Trading.DexFee
import DeXFG.Trading.FeeAgreement
import DeXFG.Trading.LockedBySwaps
import DeXFG.Trading.MaxVolume
import DeXFG.Trading.MySwaps
import DeXFG.Utxo.AddressLibraries
import DeXFG.Utxo.BitGroups
import DeXFG.Utxo.BuiltTransactions
import DeXFG.Utxo.CashAddress
import DeXFG.Utxo.CashChecksum
import DeXFG.Utxo.ExtractSecret
import DeXFG.Utxo.HeaderCodec
import DeXFG.Utxo.HtlcSemantics
import DeXFG.Utxo.RecentlySpent
import DeXFG.Utxo.ScriptAddresses
import DeXFG.Utxo.ScriptAnalysis
import DeXFG.Utxo.ScriptTotality
import DeXFG.Utxo.Slp
import DeXFG.Utxo.SlpCodec
import DeXFG.Utxo.SlpPushes
import DeXFG.Utxo.SlpRoundTrip
import DeXFG.Utxo.SpendSearch
import DeXFG.Utxo.TxBuilder
import DeXFG.Utxo.TxFallback
import DeXFG.Utxo.TxFee
import DeXFG.Utxo.TxRoundTrip
import DeXFG.Wallet.Encryption
