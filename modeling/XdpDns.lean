import XdpDns.Basic
import XdpDns.Wire.NameWalk
import XdpDns.Wire.Parse
import XdpDns.Wire.DecodeName
import XdpDns.Wire.Builder
import XdpDns.Wire.Respond
import XdpDns.Wire.Compare
import XdpDns.Wire.Termination
import XdpDns.CgoBridge
import XdpDns.Trie.DomainTrie
import XdpDns.Trie.RuleMap
import XdpDns.Trie.Size
import XdpDns.Trie.Observe
import XdpDns.FilterEngine
import XdpDns.FilterEngine.Concurrent
import XdpDns.Classify
