import SymbolIndex.Config.Load
import SymbolIndex.Json.Record
import SymbolIndex.Json.Text
import SymbolIndex.Log.Filter
import SymbolIndex.Lookup
import SymbolIndex.NameCache.Host
import SymbolIndex.Proofs.Config
import SymbolIndex.Proofs.DecodeError
import SymbolIndex.Proofs.Fingerprint.Order
import SymbolIndex.Proofs.Fingerprint.Words
import SymbolIndex.Proofs.Json.RoundTrip
import SymbolIndex.Proofs.Log.Filter
import SymbolIndex.Proofs.Log.Pattern
import SymbolIndex.Proofs.Lookup
import SymbolIndex.Proofs.NameCache.Keys
import SymbolIndex.Proofs.NameCache.Order
import SymbolIndex.Proofs.Store.Canonical
import SymbolIndex.Proofs.Store.Equality
import SymbolIndex.Proofs.Store.Identifier
import SymbolIndex.Proofs.Store.Malformed
import SymbolIndex.Proofs.Store.Version
import SymbolIndex.Proofs.Symbol.RoundTrip
import SymbolIndex.Store.Run
import SymbolIndex.Symbol
